/-
# Cells with images

A cell is read into the form in which it gives its images, and the addresses of the images; and new
addresses are written into it in the same form.  A cell whose addresses have not changed is left
as it is.
-/
import OzonSuite.Excel.Config
import OzonSuite.Lib.Pieces

namespace OzonSuite.Excel

open Lib

/-! ## Addresses in a text -/

/-- What an address begins with. -/
def schemes : List (List Char) :=
  ["https://".toList, "http://".toList, "www.".toList, "mailto:".toList]

/-- The length of the scheme that the text begins with. -/
def schemeLength (l : List Char) : Option ℕ := firstLiteral schemes l

/-- `_URL_RE`: after white space, a scheme. -/
def looksLikeUrl (s : String) : Bool := (schemeLength (s.toList.dropWhile isPySpace)).isSome

/-- The matches of `_URL_ANYWHERE_RE`. -/
def countSchemes (s : String) : ℕ := countMatches schemeLength 0 s.toList

/-! ## Formulas -/

/-- `_unescape_quotes`. -/
def unescapeQuotes : List Char → List Char
  | [] => []
  | '"' :: '"' :: l => '"' :: unescapeQuotes l
  | c :: l => c :: unescapeQuotes l

/-- `_escape_quotes`. -/
def escapeQuotes (l : List Char) : List Char :=
  l.flatMap fun c => if c = '"' then ['"', '"'] else [c]

/-- What stands in quotes, behind the opening one, with its doubled quotes, and what follows. -/
def quoted : List Char → Option (List Char × List Char)
  | [] => none
  | '"' :: '"' :: l => (quoted l).map fun (content, rest) => ('"' :: '"' :: content, rest)
  | '"' :: l => some ([], l)
  | c :: l => (quoted l).map fun (content, rest) => (c :: content, rest)

/-- What stands behind leading white space. -/
def skipSpace (l : List Char) : List Char := l.dropWhile isPySpace

/-- What follows a character, after white space. -/
def expect (c : Char) (l : List Char) : Option (List Char) :=
  match skipSpace l with
  | [] => none
  | d :: rest => if d = c then some rest else none

/-- The text of a formula, if there is one. -/
def displayArgument (l : List Char) : Option (Option (List Char) × List Char) :=
  match expect ',' l with
  | some l => do
    let l ← expect '"' l
    let (display, l) ← quoted l
    return (some display, l)
  | none => some (none, l)

/-- `_HYPERLINK_RE`: the address and the text of a formula, as they are written in it. -/
def hyperlinkFormula (s : String) : Option (List Char × Option (List Char)) := do
  let l ← expect '=' s.toList
  let l ← dropLiteral "hyperlink".toList (skipSpace l)
  let l ← expect '(' l
  let l ← expect '"' l
  let (url, l) ← quoted l
  let (display, l) ← displayArgument l
  let l ← expect ')' l
  if l.all isPySpace then some (url, display) else none

/-! ## What is read -/

/-- The address of a cell.  Its column has letters. -/
structure CellRef where
  sheet : String
  row : ℕ
  col : ℕ
  columnLetter : String
  named : getColumnLetter col = .ok columnLetter
deriving DecidableEq

/-- The place of a cell, if its column has letters. -/
def CellRef.of (sheet : String) (row col : ℕ) : Except Failure CellRef :=
  match h : getColumnLetter col with
  | .ok letter => .ok ⟨sheet, row, col, letter, h⟩
  | .error e => .error e

/-- A cell in its place. -/
structure CellAt where
  sheet : String
  row : ℕ
  col : ℕ
  cell : Cell
deriving DecidableEq

/-- The parts of a text with several addresses, and which of them are addresses. -/
structure Template where
  parts : List String
  positions : List ℕ
  in_range : ∀ i ∈ positions, i < parts.length
deriving DecidableEq

/-- An image cell: its form, its addresses and what is needed to write it again. -/
structure ImageCell where
  ref : CellRef
  form : ImageForm
  urls : List String
  displayText : Option String
  delimiter : Option String
  originalValue : Option CellValue
  template : Option Template
deriving DecidableEq

/-- A cell that shows no address. -/
def ImageCell.bare (ref : CellRef) (form : ImageForm) (value : Option CellValue) : ImageCell :=
  ⟨ref, form, [], none, none, value, none⟩

/-- A text with several addresses, cut up. -/
structure MultiSplit where
  delimiter : String
  urlParts : List String
  parts : List String
deriving DecidableEq

/-- The parts that are not blank, without the white space around them. -/
def partsOf (delim value : String) : List String :=
  ((splitText delim.toList value.toList).map fun p => strip (String.ofList p)).filter (· ≠ "")

/-- The words of a text. -/
def wordParts (value : String) : List String := (wordsOf isPySpace value.toList).map String.ofList

/-- The first white space inside a text. -/
def firstRun (value : String) : String :=
  let run := (((strip value).toList.dropWhile fun c => !isPySpace c).takeWhile isPySpace)
  if run = [] then " " else String.ofList run

/-- One turn of the loop of `_split_multi`. -/
def trySplit (value delim : String) : Except Failure (Option MultiSplit) :=
  if delim = " " then
    if value.toList.any isPySpace then
      let parts := wordParts value
      let urlParts := parts.filter looksLikeUrl
      if 2 ≤ urlParts.length ∧ urlParts.length = parts.length then
        .ok (some ⟨firstRun value, urlParts, parts⟩)
      else .ok none
    else .ok none
  else if hasInfix delim.toList value.toList then
    -- a text cannot be split at nothing
    if delim = "" then .error (.raised "ValueError")
    else
      let parts := partsOf delim value
      let urlParts := parts.filter looksLikeUrl
      if 2 ≤ urlParts.length ∧ 2 ≤ countSchemes value then
        .ok (some ⟨delim, urlParts, parts⟩)
      else .ok none
  else .ok none

/-- `_split_multi`: the first delimiter that separates two addresses. -/
def splitMulti (value : String) : List String → Except Failure (Option MultiSplit)
  | [] => .ok none
  | delim :: delims => do
    match ← trySplit value delim with
    | some split => return some split
    | none => splitMulti value delims

/-- The parts with the places of the addresses among them. -/
def Template.ofParts (parts : List String) : Template where
  parts := parts
  positions := (List.range parts.length).filter fun i => (parts[i]?).any looksLikeUrl
  in_range := by
    intro i hi
    exact List.mem_range.mp (List.mem_filter.mp hi).1

/-- The delimiters that a field is read with. -/
def readDelims (spec : Option FieldSpec) : List String :=
  match spec with
  | some spec => if spec.readDelimiters = [] then ["\n", ",", " "] else spec.readDelimiters
  | none => ["\n", ",", " "]

/-- An image is anchored to the cell. -/
def cellHasEmbeddedImage (ws : SheetFrame) (row col : ℕ) : Bool :=
  ws.images.any fun anchor => anchor = some (row - 1, col - 1)

/-- There is no value, or a text that is blank. -/
def isBlankValue (value : Option CellValue) : Bool :=
  match value with
  | none => true
  | some v =>
    match v.str? with
    | some s => strip s = ""
    | none => false

/-- The address that a hyperlink leads to. -/
def linkUrl (link : Hyperlink) : String :=
  match link.target.filter (· ≠ "") with
  | some target => target
  | none =>
    match link.location.filter (· ≠ "") with
    | some location => "#" ++ location
    | none => ""

/-- A text that is neither a formula nor linked. -/
def parseText (ref : CellRef) (value : CellValue) (s : String) (delims : List String) :
    Except Failure ImageCell := do
  match ← splitMulti s delims with
  | some split =>
    return {
      ref := ref
      form := .multiUrl
      urls := split.urlParts
      displayText := none
      delimiter := some split.delimiter
      originalValue := some value
      template := some (Template.ofParts split.parts) }
  | none =>
    if looksLikeUrl s then
      return {
        ref := ref
        form := .plainUrl
        urls := [strip s]
        displayText := none
        delimiter := none
        originalValue := some value
        template := none }
    else return ImageCell.bare ref .empty (some value)

/-- The cell has an image anchored to it. -/
def Embedded (place : CellAt) (ws : Option SheetFrame) : Bool :=
  ws.any fun ws => cellHasEmbeddedImage ws place.row place.col

/-- `images.parse`.  Without the worksheet, embedded images are not looked for. -/
def parse (py : Python) (place : CellAt) (spec : Option FieldSpec) (ws : Option SheetFrame) :
    Except Failure ImageCell := do
  let ref ← CellRef.of place.sheet place.row place.col
  let value := place.cell.value
  if Embedded place ws then
    return ImageCell.bare ref .embeddedImage value
  else if isBlankValue value && place.cell.hyperlink = none then
    return ImageCell.bare ref .empty value
  else
    match (value.bind CellValue.str?).bind hyperlinkFormula with
    | some (url, display) =>
      return {
        ref := ref
        form := .hyperlinkFormula
        urls := [String.ofList (unescapeQuotes url)]
        displayText := display.map fun d => String.ofList (unescapeQuotes d)
        delimiter := none
        originalValue := value
        template := none }
    | none =>
      match place.cell.hyperlink, value with
      | some link, value =>
        return {
          ref := ref
          form := .realHyperlink
          urls := [linkUrl link]
          displayText := value.map py.str
          delimiter := none
          originalValue := value
          template := none }
      | none, none => return ImageCell.bare ref .empty none
      | none, some v =>
        match v.str? with
        | some s => parseText ref v s (readDelims spec)
        | none => return ImageCell.bare ref .empty (some v)

/-! ## What is written -/

/-- The text of a formula. -/
def formulaText (url : String) (display : Option String) : String :=
  String.ofList <| "=HYPERLINK(\"".toList ++ escapeQuotes url.toList ++
    match display with
    | some display => "\",\"".toList ++ escapeQuotes display.toList ++ "\")".toList
    | none => "\")".toList

/-- The parts with new addresses in the places of the old ones. -/
def Template.fill (t : Template) (urls : List String) : List String :=
  (t.positions.zip urls).foldl (fun parts (i, url) => parts.set i url) t.parts

/-- The text with several addresses. -/
def multiText (ic : ImageCell) (urls : List String) : String :=
  let delim := ic.delimiter.getD "\n"
  match ic.template with
  | some t =>
    if t.positions.length = urls.length then delim.intercalate (t.fill urls)
    else delim.intercalate urls
  | none => delim.intercalate urls

/-- The value of the cell is the text. -/
def holdsText (cell : Cell) (s : String) : Bool := cell.value.bind CellValue.str? = some s

/-- A text in the cell, without a hyperlink. -/
def writeText (cell : Cell) (s : String) : Except Failure (Cell × Bool) :=
  if holdsText cell s && cell.hyperlink = none then .ok (cell, false)
  else do
    let cell ← cell.setValue s
    return (cell.clearHyperlink, true)

/-- A hyperlink to the address. -/
def writeLink (cell : Cell) (url : String) : Except Failure (Cell × Bool) :=
  if cell.hyperlink.bind Hyperlink.target ≠ some url then do
    let cell ← cell.setHyperlink url
    return (cell, true)
  else .ok (cell, false)

/-- A text to be shown, if one is given. -/
def writeDisplay (cell : Cell) (newDisplay : Option String) (changed : Bool) :
    Except Failure (Cell × Bool) :=
  match newDisplay with
  | none => .ok (cell, changed)
  | some display =>
    if holdsText cell display then .ok (cell, changed)
    else do
      let cell ← cell.setValue display
      return (cell, true)

/-- New addresses written into the cell in one form. -/
def writeForm (form : ImageForm) (cell : Cell) (ic : ImageCell) (newUrls : List String)
    (newDisplay : Option String) : Except Failure (Cell × Bool) :=
  match form with
  | .plainUrl => writeText cell (newUrls.headD "")
  | .hyperlinkFormula =>
    writeText cell (formulaText (newUrls.headD "") (newDisplay.or ic.displayText))
  | .realHyperlink => do
    let (cell, changed) ← writeLink cell (newUrls.headD "")
    writeDisplay cell newDisplay changed
  | .multiUrl =>
    if holdsText cell (multiText ic newUrls) then .ok (cell, false)
    else do
      let cell ← cell.setValue (multiText ic newUrls)
      return (cell, true)
  | .embeddedImage => .ok (cell, false)
  | .empty => .ok (cell, false)

/-- `images.serialize`: the cell afterwards, and whether it was written to. -/
def serialize (cell : Cell) (ic : ImageCell) (newUrls : List String) (newDisplay : Option String)
    (forcedForm : Option ImageForm) : Except Failure (Cell × Bool) :=
  match ic.form with
  | .embeddedImage => .ok (cell, false)
  | .empty =>
    match forcedForm with
    | none => .ok (cell, false)
    | some form =>
      if newUrls = [] then .ok (cell, false) else writeForm form cell ic newUrls newDisplay
  | form =>
    if newUrls = ic.urls ∧ (newDisplay = none ∨ newDisplay = ic.displayText) then .ok (cell, false)
    else writeForm form cell ic newUrls newDisplay

end OzonSuite.Excel
