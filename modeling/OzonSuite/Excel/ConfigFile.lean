/-
# Reading the configuration

A configuration is a mapping, as it is loaded from its file.  Every key and every value is checked,
and what is not right is refused with the place where it stands.  What the checks demand of a value
that nothing reads afterwards is checked as well, but not kept.
-/
import OzonSuite.Excel.Config

namespace OzonSuite.Excel

open Lib

/-! ## The data -/

/-- A value of a configuration file.  Dates, bytes and the like are told apart by their type
only. -/
inductive Data
  | none
  | bool (b : Bool)
  | int (n : ℤ)
  | float (x : ℚ)
  | str (s : String)
  | list (l : List Data)
  | dict (entries : List (Data × Data))
  | other (typeName : String) (truthy : Bool)

/-- A dictionary, in the order of its insertions. -/
abbrev Dict := List (Data × Data)

namespace Data

/-- `type(value).__name__`. -/
def typeName : Data → String
  | none => "NoneType"
  | bool _ => "bool"
  | int _ => "int"
  | float _ => "float"
  | str _ => "str"
  | list _ => "list"
  | dict _ => "dict"
  | other name _ => name

/-- `bool(value)`. -/
def truthy : Data → Bool
  | none => false
  | bool b => b
  | int n => n ≠ 0
  | float x => x ≠ 0
  | str s => s ≠ ""
  | list l => !l.isEmpty
  | dict d => !d.isEmpty
  | other _ b => b

/-- The value is `None`. -/
def isNone : Data → Bool
  | none => true
  | _ => false

/-- The value is the given text. -/
def isStr (s : String) : Data → Bool
  | str t => t = s
  | _ => false

/-- The value of an `isinstance(value, int)`.  Truth values are among them. -/
def int? : Data → Option ℤ
  | int n => some n
  | bool b => some (if b then 1 else 0)
  | _ => Option.none

/-- `value == 1`. -/
def isOne : Data → Bool
  | int n => n = 1
  | bool b => b
  | float x => x = 1
  | _ => false

/-- The text of a value that is one. -/
def str? : Data → Option String
  | str s => some s
  | _ => Option.none

end Data

/-- `d.get(key)`, if the key is there. -/
def Dict.get? (d : Dict) (key : String) : Option Data :=
  (d.find? fun e => e.1.isStr key).map Prod.snd

/-- `d.get(key)`. -/
def Dict.get (d : Dict) (key : String) : Data := (Dict.get? d key).getD .none

/-- What Python computes on such values that is not spelled out here. -/
structure PythonData where
  repr : Data → String
  /-- `str(value)` of a value that is not a text. -/
  str : Data → String
  /-- `repr(sorted(values))`, which fails when the values cannot be compared. -/
  sortedRepr : List Data → Except Failure String
  upper : String → String
  lower : String → String

/-- `str(value)`. -/
def PythonData.text (x : PythonData) (value : Data) : String := value.str?.getD (x.str value)

/-! ## The checks -/

section Checks

variable (py : Python) (x : PythonData)

/-- A block of the file, which may be left out. -/
def requireDict (value : Data) (place : String) : Except Failure Dict :=
  match value with
  | .none => .ok []
  | .dict d => .ok d
  | v => .error (.configError s!"'{place}' must be a mapping, got {v.typeName}")

/-- A block has no keys but those that are known. -/
def checkUnknown (value : Dict) (allowed : List String) (place : String) : Except Failure Unit :=
  let unknown := (value.map Prod.fst).filter fun key => !allowed.any fun a => key.isStr a
  if unknown.isEmpty then .ok ()
  else do
    let unknown ← x.sortedRepr unknown
    let allowed ← x.sortedRepr (allowed.map Data.str)
    .error (.configError s!"unknown key(s) {unknown} in '{place}'; allowed: {allowed}")

/-- The forms that a configuration may name. -/
def formByName : List (String × Option ImageForm) :=
  [("auto", none), ("plain_url", some .plainUrl), ("hyperlink_formula", some .hyperlinkFormula),
    ("real_hyperlink", some .realHyperlink), ("multi_url", some .multiUrl)]

/-- The form of an image cell, which may be left out. -/
def parseImageForm (value : Data) (place : String) : Except Failure (Option ImageForm) :=
  if value.isNone then .ok none
  else
    match formByName.lookup (x.lower (strip (x.text value))) with
    | some form => .ok form
    | none => do
      let allowed ← x.sortedRepr (formByName.map fun e => Data.str e.1)
      .error (.configError s!"'{place}.form' = {x.repr value} invalid; allowed: {allowed}")

/-- The mode of a match, which may be left out. -/
def parseMode (value : Option Data) (default' : MatchMode) (message : String) :
    Except Failure MatchMode :=
  match value with
  | none => .ok default'
  | some (.str "contains") => .ok .contains
  | some (.str "equals") => .ok .equals
  | some (.str "regex") => .ok .regex
  | some v => .error (.configError s!"'{message}' = {x.repr v} invalid")

/-- The keywords that are not blank when they are normalised. -/
def addKeywords (m : MatchSpec) (values : List Data) : List Keyword :=
  values.filterMap fun value =>
    let norm := if value.isNone then "" else normalizeText py m (some (.text (x.text value)))
    if norm = "" then none else some ⟨x.text value, norm⟩

/-- The keywords of all languages. -/
def flattenKeywords (m : MatchSpec) (block : Data) : Except Failure (List Keyword) :=
  match block with
  | .none => .ok []
  | .dict langs => do
    let groups ← langs.mapM fun (lang, values) =>
      match values with
      | .none => .ok []
      | .list values => .ok (addKeywords py x m values)
      | _ => .error (Failure.configError s!"keywords.{x.text lang} must be a list")
    return groups.flatten
  | .list values => .ok (addKeywords py x m values)
  | _ => .error (.configError "keywords must be a mapping lang->list or a flat list")

/-- The letters of a column, which may be left out. -/
def parseLetter (value : Data) (place : String) : Except Failure (Option String) :=
  if value.isNone then .ok none
  else
    let letter := x.upper (strip (x.text value))
    if letter ≠ "" ∧ letter.toList.all (fun c => 'A' ≤ c && c ≤ 'Z') then .ok (some letter)
    else .error (.configError s!"'{place}.letter' = {x.repr value} not a column letter")

/-- The number of a column, which may be left out. -/
def parseIndex (value : Data) (place : String) : Except Failure (Option ℕ) :=
  if value.isNone then .ok none
  else
    match value.int? with
    | some n =>
      if n < 1 then .error (.configError s!"'{place}.index' must be a 1-based int")
      else .ok (some n.toNat)
    | none => .error (.configError s!"'{place}.index' must be a 1-based int")

/-- The delimiters between addresses in a cell. -/
def parseReadDelimiters (multi : Dict) (place : String) : Except Failure (List String) :=
  match Dict.get? multi "read_delimiters" with
  | none => .ok ["\n", ",", " "]
  | some (.list l) =>
    match l.mapM Data.str? with
    | some delims => .ok delims
    | none =>
      .error (.configError s!"'{place}.multi.read_delimiters' must be a list of strings")
  | some _ => .error (.configError s!"'{place}.multi.read_delimiters' must be a list of strings")

/-- The check of a key that nothing reads. -/
def checkWriteDelimiter (multi : Dict) (place : String) : Except Failure Unit :=
  match Dict.get? multi "write_delimiter" with
  | none => .ok ()
  | some (.str _) => .ok ()
  | some _ => .error (.configError s!"'{place}.multi.write_delimiter' must be a string")

/-- `_parse_field`. -/
def parseField (raw : Data) (m : MatchSpec) (mode : MatchMode) (place : String) :
    Except Failure FieldSpec := do
  let raw ← requireDict raw place
  checkUnknown x raw ["keywords", "letter", "index", "required", "form", "mode", "multi"] place
  let letter ← parseLetter x (Dict.get raw "letter") place
  let index ← parseIndex (Dict.get raw "index") place
  let multi ← requireDict (Dict.get raw "multi") (place ++ ".multi")
  checkUnknown x multi ["read_delimiters", "write_delimiter"] (place ++ ".multi")
  let delims ← parseReadDelimiters multi place
  checkWriteDelimiter multi place
  let mode ← parseMode x (Dict.get? raw "mode") mode (place ++ ".mode")
  let keywords ← flattenKeywords py x m (Dict.get raw "keywords")
  let form ← parseImageForm x (Dict.get raw "form") place
  return {
    keywords := keywords
    letter := letter
    index := index
    required := (Dict.get raw "required").truthy
    imageForm := form
    mode := mode
    readDelimiters := delims }

/-- The columns of images, numbered in the messages. -/
def parseImageItems (m : MatchSpec) (mode : MatchMode) (place : String) :
    ℕ → List Data → Except Failure (List FieldSpec)
  | _, [] => .ok []
  | i, item :: items => do
    let spec ← parseField py x item m mode s!"{place}[{i}]"
    let specs ← parseImageItems m mode place (i + 1) items
    return spec :: specs

/-- `_parse_image_list`: a list of fields, or a single one. -/
def parseImageList (raw : Data) (m : MatchSpec) (mode : MatchMode) (place : String) :
    Except Failure (List FieldSpec) :=
  match raw with
  | .none => .ok []
  | .list items => parseImageItems py x m mode place 0 items
  | item => parseImageItems py x m mode place 0 [item]

/-- A field that may be missing. -/
def parseOptionalField (raw : Data) (m : MatchSpec) (mode : MatchMode) (place : String) :
    Except Failure (Option FieldSpec) :=
  if raw.isNone then .ok none
  else do
    let spec ← parseField py x raw m mode place
    return some spec

/-- The number of a row, or `auto`. -/
def parseAutoInt (value : Data) (place : String) : Except Failure (Option ℕ) :=
  if value.isNone || value.str?.any (fun s => x.lower (strip s) = "auto") then .ok none
  else
    match value.int? with
    | some n =>
      if n < 1 then .error (.configError s!"'{place}' int must be >= 1") else .ok (some n.toNat)
    | none =>
      .error (.configError s!"'{place}' must be 'auto' or a positive int, got {x.repr value}")

/-- One sheet of the file. -/
def parseSheet (item : Data) : Except Failure SheetSpec := do
  let item ← requireDict item "sheets[]"
  checkUnknown x item ["name", "aliases"] "sheets[]"
  let name ← okOr ((Dict.get item "name").str?.filter (· ≠ ""))
    (Failure.configError "each sheet entry needs a non-empty 'name'")
  let aliases := Dict.get item "aliases"
  if aliases.truthy then
    match aliases with
    | .list l => return ⟨name, l.map x.text⟩
    | _ => .error (.configError "'sheets[].aliases' must be a list")
  else return ⟨name, []⟩

/-- The sheets of the file. -/
def parseSheets (raw : Data) : Except Failure (List SheetSpec) :=
  match raw with
  | .none => .ok []
  | .list items => items.mapM (parseSheet x)
  | _ => .error (.configError "'sheets' must be a list")

/-- Where the header is looked for. -/
def parseHeader (raw : Data) : Except Failure HeaderSpec := do
  let raw ← requireDict raw "header"
  checkUnknown x raw ["scan_rows", "match_row", "data_start"] "header"
  let scanRows ← okOr ((((Dict.get? raw "scan_rows").getD (.int 3)).int?).filter (1 ≤ ·))
    (Failure.configError "'header.scan_rows' must be a positive int")
  let matchRow ← parseAutoInt x (Dict.get raw "match_row") "header.match_row"
  let dataStart ← parseAutoInt x (Dict.get raw "data_start") "header.data_start"
  return { scanRows := scanRows.toNat, matchRow := matchRow, dataStart := dataStart }

/-- How texts are compared, and the mode of the fields that name none. -/
def parseMatch (raw : Data) : Except Failure (MatchSpec × MatchMode) := do
  let raw ← requireDict raw "match"
  checkUnknown x raw ["normalize", "case_insensitive", "strip_required_marker", "mode"] "match"
  let mode ← parseMode x (Dict.get? raw "mode") .contains "match.mode"
  return ({
    caseInsensitive := ((Dict.get? raw "case_insensitive").getD (.bool true)).truthy
    stripRequiredMarker := ((Dict.get? raw "strip_required_marker").getD (.bool true)).truthy },
    mode)

/-- What is done about one kind of problem. -/
def parseOnProblem (raw : Dict) (key : String) : Except Failure OnProblem :=
  match Dict.get? raw key with
  | none => .ok .error
  | some (.str "error") => .ok .error
  | some (.str "warn") => .ok .warn
  | some v =>
    .error (.configError s!"'policy.{key}' = {x.repr v} must be 'error' or 'warn'")

/-- What is done about problems. -/
def parsePolicy (raw : Data) : Except Failure PolicySpec := do
  let raw ← requireDict raw "policy"
  checkUnknown x raw ["on_missing_required", "on_preflight_risk", "freeze_unmapped"] "policy"
  let onMissingRequired ← parseOnProblem x raw "on_missing_required"
  let onPreflightRisk ← parseOnProblem x raw "on_preflight_risk"
  refuseIf (((Dict.get? raw "freeze_unmapped").getD (.bool true)).truthy = false)
    (Failure.configError ("'policy.freeze_unmapped' must stay true; the preservation contract " ++
      "requires every unmapped column to be frozen."))
  return { onMissingRequired := onMissingRequired, onPreflightRisk := onPreflightRisk }

/-- The mapping in a file. -/
def parseConfig (data : Data) : Except Failure MappingConfig :=
  match data with
  | .dict root => do
    checkUnknown x root ["version", "sheets", "header", "match", "columns", "key_column", "policy"]
      "<root>"
    let version := Dict.get root "version"
    refuseIf (version.isOne = false) (Failure.configError
      s!"unsupported config version {x.repr version}; this build supports 1")
    let sheets ← parseSheets x (Dict.get root "sheets")
    let header ← parseHeader x (Dict.get root "header")
    let (m, mode) ← parseMatch x (Dict.get root "match")
    let columns ← requireDict (Dict.get root "columns") "columns"
    checkUnknown x columns ["title", "listing", "images_main", "images_additional"] "columns"
    let title ← parseOptionalField py x (Dict.get columns "title") m mode "columns.title"
    let listing ← parseOptionalField py x (Dict.get columns "listing") m mode "columns.listing"
    let imagesMain ←
      parseImageList py x (Dict.get columns "images_main") m mode "columns.images_main"
    let imagesAdditional ←
      parseImageList py x (Dict.get columns "images_additional") m mode "columns.images_additional"
    let keyColumn ← parseOptionalField py x (Dict.get root "key_column") m mode "key_column"
    let policy ← parsePolicy x (Dict.get root "policy")
    return {
      sheets := sheets
      header := header
      matching := m
      title := title
      listing := listing
      imagesMain := imagesMain
      imagesAdditional := imagesAdditional
      keyColumn := keyColumn
      policy := policy }
  | _ => .error (.configError "config root must be a mapping")

end Checks

end OzonSuite.Excel
