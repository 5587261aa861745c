/-
# The mapping configuration

What a configuration says about the sheets to process, the header and the columns, and how texts
are normalised before they are compared with its keywords.
-/
import OzonSuite.Excel.Workbook

namespace OzonSuite.Excel

open Lib

/-! ## The data -/

/-- What a column is for. -/
inductive ColumnRole
  | title | listing | imageMain | imageAdditional | frozen
deriving DecidableEq

/-- How a cell holds an image address. -/
inductive ImageForm
  | plainUrl | hyperlinkFormula | realHyperlink | multiUrl | embeddedImage | empty
deriving DecidableEq

/-- A keyword: as it was written, and normalised. -/
structure Keyword where
  raw : String
  norm : String
deriving DecidableEq

/-- How a keyword is compared with a header. -/
inductive MatchMode
  | contains | equals | regex
deriving DecidableEq

/-- How one column is found. -/
structure FieldSpec where
  keywords : List Keyword := []
  letter : Option String := none
  index : Option ℕ := none
  required : Bool := false
  imageForm : Option ImageForm := none
  mode : MatchMode := .contains
  readDelimiters : List String := ["\n", ",", " "]
deriving DecidableEq

/-- A sheet that is processed, under its name or another. -/
structure SheetSpec where
  name : String
  aliases : List String := []
deriving DecidableEq

/-- A row that is not pinned is looked for. -/
structure HeaderSpec where
  scanRows : ℕ := 3
  matchRow : Option ℕ := none
  dataStart : Option ℕ := none
deriving DecidableEq

/-- What is evened out before keywords are compared. -/
structure MatchSpec where
  caseInsensitive : Bool := true
  stripRequiredMarker : Bool := true
deriving DecidableEq

/-- What is done about a problem. -/
inductive OnProblem
  | error | warn
deriving DecidableEq

/-- What is done about missing columns and about risks. -/
structure PolicySpec where
  onMissingRequired : OnProblem := .error
  onPreflightRisk : OnProblem := .error
deriving DecidableEq

/-- A mapping of the columns of a template. -/
structure MappingConfig where
  sheets : List SheetSpec := []
  header : HeaderSpec := {}
  matching : MatchSpec := {}
  title : Option FieldSpec := none
  listing : Option FieldSpec := none
  imagesMain : List FieldSpec := []
  imagesAdditional : List FieldSpec := []
  keyColumn : Option FieldSpec := none
  policy : PolicySpec := {}
deriving DecidableEq

namespace MappingConfig

variable (config : MappingConfig)

/-- The fields of the mapping. -/
def allFieldSpecs : List FieldSpec :=
  config.title.toList ++ config.listing.toList ++ config.imagesMain ++ config.imagesAdditional ++
    config.keyColumn.toList

/-- Without any entry every sheet is processed. -/
def matchesProcessedSheet (wsTitle : String) : Bool :=
  config.sheets.isEmpty ||
    config.sheets.any fun s => s.name = "*" || s.name = wsTitle || wsTitle ∈ s.aliases

/-- The sheets that are processed, and that the verifier lets change. -/
def processes (ws : Worksheet) : Bool :=
  ws.state = .visible && config.matchesProcessedSheet ws.title

end MappingConfig

/-! ## Texts -/

section Texts

variable (py : Python)

/-- `re.sub(r"\s+", " ", s)`: every run of white space becomes one blank. -/
def collapseSpaces : List Char → List Char
  | [] => []
  | c :: l =>
    if isPySpace c then
      match collapseSpaces l with
      | ' ' :: rest => ' ' :: rest
      | rest => ' ' :: rest
    else c :: collapseSpaces l

/-- The sign that a column has to be filled. -/
def isRequiredMarker (c : Char) : Bool := c = '*' || c = '＊'

/-- The letter without its dots. -/
def foldYo (c : Char) : Char := if c = 'ё' then 'е' else if c = 'Ё' then 'Е' else c

/-- The text of a header as keywords are compared with it. -/
def normalizeText (m : MatchSpec) (value : Option CellValue) : String :=
  match value with
  | none => ""
  | some v =>
    let s := py.normalizeNfkc (py.str v)
    let s := String.ofList (s.toList.map foldYo)
    let s := strip (String.ofList (collapseSpaces s.toList))
    let s := if m.stripRequiredMarker then
        strip (String.ofList ((s.toList.rdropWhile isPySpace).rdropWhile isRequiredMarker))
      else s
    if m.caseInsensitive then py.casefold s else s

/-- Whether a cell of a header has a keyword.  A pattern that is not one matches nothing. -/
def kwIn (needle haystack : String) (mode : MatchMode) : Bool :=
  needle ≠ "" &&
    match mode with
    | .equals => needle = haystack
    | .regex => (py.search needle haystack).getD false
    | .contains => hasInfix needle.toList haystack.toList

end Texts

/-! ## Column letters -/

/-- The letters of a column, from the last one on. -/
def lettersOf : ℕ → ℕ → List Char
  | 0, _ => []
  | fuel + 1, n =>
    if n = 0 then [] else lettersOf fuel ((n - 1) / 26) ++ [Char.ofNat (65 + (n - 1) % 26)]

/-- The last column that has at most three letters. -/
def maxColumnIndex : ℕ := 18278

/-- The letters of a column. -/
def getColumnLetter (col : ℕ) : Except Failure String :=
  if 1 ≤ col ∧ col ≤ maxColumnIndex then .ok (String.ofList (lettersOf 3 col))
  else .error (.raised "ValueError")

/-- The number of a column. -/
def columnIndexFromString (letters : String) : Except Failure ℕ :=
  let cs := letters.toList
  if 1 ≤ cs.length ∧ cs.length ≤ 3 ∧ cs.all (fun c => 'A' ≤ c && c ≤ 'Z') then
    .ok (cs.foldl (fun n c => 26 * n + (c.toNat - 64)) 0)
  else .error (.raised "ValueError")

/-- The address of a cell, such as `G4`. -/
def coordinate (row col : ℕ) : String := String.ofList (lettersOf 3 col) ++ toString row

lemma pos_of_getColumnLetter {col : ℕ} {letter : String} (h : getColumnLetter col = .ok letter) :
    0 < col := by
  unfold getColumnLetter at h
  split_ifs at h with hcol
  exact hcol.1

end OzonSuite.Excel
