/-
# The text of a poster

The node makes the text of a poster from the data of a product, and compares a text that comes back
with it.  White space and case do not count.  The selling points are compared as one text with bars
between them, so a bar inside a point passes for the border between two.
-/
import OzonSuite.Lib.Pieces
import OzonSuite.Lib.UnicodeCase
import OzonSuite.Node.Providers
import OzonSuite.Node.Schedule

namespace OzonSuite

open Lib

/-! ## The text that is approved -/

/-- The texts of a poster. -/
structure PosterCopy where
  headline : String
  subheadline : String
  sellingPoints : List String
  ctaLine : String
  complianceNote : String
deriving DecidableEq

/-- The beginning of a text, with points where it was cut. -/
def truncateText (value : String) (maxChars : ℕ) : String :=
  let truncated := String.ofList (value.toList.take maxChars)
  if maxChars < value.toList.length then s!"{truncated}..." else truncated

/-- The headline for a product. -/
def preferredHeadline (product : OzonProductDetail) : String :=
  let raw := (product.name.filter fun value => trim value ≠ "").getD product.offerId
  truncateText (trim raw) 28

/-- An attribute that says nothing to a buyer. -/
def isLowValueAttribute (name : String) : Bool :=
  toAsciiLowercase (trim name) ∈ ["id", "sku", "barcode", "barcodes", "offer id", "offer_id"]

/-- A selling point that an attribute gives. -/
def attributeSellingPoint (entry : OzonProductAttribute) : Option String := do
  let name := trim (← entry.name)
  let value := trim (← entry.values.head?)
  if name = "" ∨ value = "" ∨ isLowValueAttribute name then
    none
  return s!"{name}: {truncateText value 22}"

/-- The selling points of a product that gives none. -/
def defaultSellingPoints (locale : String) : List String :=
  if locale = "zh-CN" then ["商品图来自当前 Ozon 店铺", "保留包装、颜色和标签细节", "适合先做首图和活动海报"]
  else ["Product images come from the current Ozon shop",
    "Preserve packaging, color, and label details",
    "Suitable for hero images and campaign posters"]

/-- The line below the headline. -/
def posterSubheadline (locale : String) (hasImage : Bool) : String :=
  match decide (locale = "zh-CN"), hasImage with
  | true, true => "用真实商品图打底，背景只负责把质感和场景感补上。"
  | true, false => "这件商品还没带主图，先补图再出海报会更稳。"
  | false, true => "Start from the real product image; use the background only to add texture " ++
      "and scene depth."
  | false, false => "This product has no main image yet. Add a clear product image before " ++
      "poster generation."

/-- The note at the foot of a poster. -/
def posterComplianceNote (locale : String) (realOzon : Bool) : String :=
  match decide (locale = "zh-CN"), realOzon with
  | true, true => "不改商品外观；文案和图片按 Ozon 实时数据校验。"
  | true, false => "当前是本地 mock 模式，正式出图前请切到真实 Ozon API 再校验一次。"
  | false, true => "Do not alter the product appearance; copy and images are checked against " ++
      "live Ozon data."
  | false, false => "This is local mock mode. Switch to the real Ozon API and verify again " ++
      "before production poster work."

/-- `build_poster_brief`, without the theme and the prompt for the background. -/
def buildPosterBrief (config : LocalConfig) (product : OzonProductDetail) (locale : String) :
    PosterCopy :=
  let attributePoints := (product.attributes.filterMap attributeSellingPoint).take 3
  { headline := preferredHeadline product
    subheadline := posterSubheadline locale (0 < product.images.length)
    sellingPoints := if attributePoints = [] then defaultSellingPoints locale else attributePoints
    ctaLine := if locale = "zh-CN" then "先出一版能给运营看的海报，再微调标题和卖点"
      else "Lock the hero image, then tune the selling points in one pass."
    complianceNote := posterComplianceNote locale config.useRealOzon }

/-! ## Comparing -/

/-- A copy that is to be verified. -/
structure PosterVerifyRequest where
  lookup : OzonProductLookup
  locale : Option String
  headline : String
  subheadline : String
  sellingPoints : List String
  ctaLine : String
  complianceNote : String

/-- A field that differs from what is expected. -/
structure PosterCopyMismatch where
  field : String
  expected : String
  actual : String
deriving DecidableEq

/-- What came of the verification. -/
structure PosterVerifyResponse where
  ok : Bool
  checkedAt : Time
  approvedCopy : PosterCopy
  mismatches : List PosterCopyMismatch
  warnings : List String
deriving DecidableEq

/-- What the operator is told. -/
def posterVerifyWarnings (locale : String) (ok : Bool) : List String :=
  match decide (locale = "zh-CN"), ok with
  | true, true => ["校验通过：当前文案与系统生成稿一致。",
      "商品主体应继续使用真实主图合成，避免让图片模型重画包装和文字。"]
  | true, false => ["当前文案和系统生成稿不一致，建议回到商品属性再确认改写是否安全。",
      "这一步只做逐字段比对，不会帮你猜测哪些自由改写仍然安全。"]
  | false, true => ["Check passed: the current copy matches the system brief.",
      "Keep the product body composited from the real main image; do not let the image model " ++
        "redraw packaging or text."]
  | false, false => ["The current copy does not match the system brief. Recheck the product " ++
      "attributes before using this rewrite.",
      "This check only compares fields. It does not guess whether freeform copy changes are " ++
        "still safe."]

/-- The selling points of a request, trimmed and without the blank ones. -/
def PosterVerifyRequest.points (input : PosterVerifyRequest) : List String :=
  (input.sellingPoints.map trim).filter (· ≠ "")

/-- The copy of a request, trimmed. -/
def PosterVerifyRequest.submittedCopy (input : PosterVerifyRequest) : PosterCopy :=
  { headline := trim input.headline
    subheadline := trim input.subheadline
    sellingPoints := input.points
    ctaLine := trim input.ctaLine
    complianceNote := trim input.complianceNote }

section Comparing

variable (k : LetterClasses)

/-- The text without white space, in lower case. -/
def normalizeCopy (value : String) : String :=
  toLowercase k (String.ofList (wordsOf isWhitespace value.toList).flatten)

/-- Note a field that differs. -/
def pushCopyMismatch (mismatches : List PosterCopyMismatch) (field expected actual : String) :
    List PosterCopyMismatch :=
  if normalizeCopy k expected ≠ normalizeCopy k actual then
    mismatches ++ [⟨field, expected, actual⟩]
  else mismatches

/-- The fields that differ. -/
def comparePosterCopy (expected actual : PosterCopy) : List PosterCopyMismatch :=
  let mismatches := pushCopyMismatch k [] "headline" expected.headline actual.headline
  let mismatches := pushCopyMismatch k mismatches "subheadline" expected.subheadline
    actual.subheadline
  let mismatches := pushCopyMismatch k mismatches "cta_line" expected.ctaLine actual.ctaLine
  let mismatches := pushCopyMismatch k mismatches "compliance_note" expected.complianceNote
    actual.complianceNote
  pushCopyMismatch k mismatches "selling_points" (" | ".intercalate expected.sellingPoints)
    (" | ".intercalate actual.sellingPoints)

/-- The answer of `poster_verify`, once there is an approved text. -/
def posterVerdict (checkedAt : Time) (locale : String) (approved : PosterCopy)
    (input : PosterVerifyRequest) : PosterVerifyResponse :=
  let mismatches := comparePosterCopy k approved input.submittedCopy
  { ok := decide (mismatches = [])
    checkedAt := checkedAt
    approvedCopy := approved
    mismatches := mismatches
    warnings := posterVerifyWarnings locale (decide (mismatches = [])) }

end Comparing

/-! ## The handler -/

/-- The error of a lookup that has failed. -/
def mapProductGetError (context : String) : OzonConnectorError → ApiError
  | .invalidProductLookup message => .badRequest s!"{context}: {message}"
  | .productNotFound label => .notFound s!"{context}: product not found for {label}"
  | error => .badGateway s!"{context}: {error.text}"

/-- The product that is looked up. -/
def loadProductForLookup (x : NodeCrates) (w : NodeWorld) (lookup : OzonProductLookup) :
    NodeM OzonProductDetail := do
  requireValidLeaseWithFeature x w .ozonRead
  let credentials ← loadOzonCredentials x w
  ofExcept ((w.productGet 0 credentials lookup).mapError
    (mapProductGetError "ozon connector failed"))

/-- The handler of a verification. -/
def posterVerify (x : NodeCrates) (w : NodeWorld) (k : LetterClasses) (headers : TokenHeaders)
    (input : PosterVerifyRequest) : NodeM PosterVerifyResponse := do
  ofExcept (requireOperatorToken (← get).config headers)
  let locale := input.locale.getD "zh-CN"
  let product ← loadProductForLookup x w input.lookup
  let approved := buildPosterBrief (← get).config product locale
  return posterVerdict k w.now locale approved input

/-! ## What is compared -/

variable {k : LetterClasses}

lemma toList_normalizeCopy (value : String) :
    (normalizeCopy k value).toList =
      lowerFrom k [] (value.toList.filter fun c => !isWhitespace c) := by
  rw [normalizeCopy, toLowercase, String.toList_ofList, String.toList_ofList, flatten_wordsOf]

/-- Blanks at the ends do not count. -/
lemma normalizeCopy_trim (value : String) :
    normalizeCopy k (trim value) = normalizeCopy k value := by
  rw [normalizeCopy, normalizeCopy, trim, trimText, String.toList_ofList, wordsOf_trimList]

/-- A bar ends a word, and is no capital letter. -/
lemma bar_breaks : Breaks k '|' ∧ lowerMap.map '|' = ['|'] := by
  refine ⟨⟨?_, ?_⟩, by decide +kernel⟩
  · rw [k.cased_ascii '|' (by decide)]
    decide
  · rw [k.caseIgnorable_ascii '|' (by decide)]
    decide

/-- **The joined points.**  Of the points with bars between them, what is compared are the points as
they are compared one by one, with bars between them. -/
lemma toList_normalizeCopy_join (points : List String) :
    (normalizeCopy k (" | ".intercalate points)).toList =
      ['|'].intercalate (points.map fun p => (normalizeCopy k p).toList) := by
  obtain ⟨hbreak, hmap⟩ := bar_breaks (k := k)
  have hsep : (" | ".toList.filter fun c => !isWhitespace c) = ['|'] := by decide
  have hpoints : ((points.map String.toList).map (List.filter fun c => !isWhitespace c)).map
      (lowerFrom k []) = points.map fun p => (normalizeCopy k p).toList := by
    rw [List.map_map, List.map_map]
    exact List.map_congr_left fun p _ => (toList_normalizeCopy p).symm
  rw [toList_normalizeCopy, String.toList_intercalate, filter_intercalate, hsep,
    lowerFrom_intercalate k hbreak (by decide) hmap, hpoints]

lemma pushCopyMismatch_eq_nil {mismatches : List PosterCopyMismatch}
    {field expected actual : String} :
    pushCopyMismatch k mismatches field expected actual = [] ↔
      mismatches = [] ∧ normalizeCopy k expected = normalizeCopy k actual := by
  rw [pushCopyMismatch]
  split_ifs with h
  · simp [h]
  · simp [not_not.mp h]

/-! ## Exactness -/

variable (k)

/-- The four single texts agree. -/
structure SameFields (approved : PosterCopy) (input : PosterVerifyRequest) : Prop where
  headline : normalizeCopy k approved.headline = normalizeCopy k input.headline
  subheadline : normalizeCopy k approved.subheadline = normalizeCopy k input.subheadline
  ctaLine : normalizeCopy k approved.ctaLine = normalizeCopy k input.ctaLine
  complianceNote : normalizeCopy k approved.complianceNote = normalizeCopy k input.complianceNote

/-- As many points on both sides, each of which agrees with its counterpart. -/
def SamePoints (approved submitted : List String) : Prop :=
  List.Forall₂ (fun a b => normalizeCopy k a = normalizeCopy k b) approved submitted

/-- The points cut at their bars; no points are like one blank point. -/
def cutAtBars (points : List String) : List (List Char) :=
  match points with
  | [] => [[]]
  | points => points.flatMap fun p => (normalizeCopy k p).toList.splitOn '|'

/-- The points of the two sides have the same pieces between bars, but they are not the same
points. -/
def DividedOtherwise (approved submitted : List String) : Prop :=
  cutAtBars k approved = cutAtBars k submitted ∧ ¬ SamePoints k approved submitted

variable {k}

lemma splitOn_normalizeCopy_join (points : List String) :
    (normalizeCopy k (" | ".intercalate points)).toList.splitOn '|' = cutAtBars k points := by
  rw [toList_normalizeCopy_join]
  cases points with
  | nil => rfl
  | cons p points =>
    rw [splitOn_intercalate_flatMap '|' (by simp), List.flatMap_map]
    rfl

/-- What the comparison of the points comes to. -/
lemma normalizeCopy_join_inj {approved submitted : List String} :
    normalizeCopy k (" | ".intercalate approved) = normalizeCopy k (" | ".intercalate submitted) ↔
      cutAtBars k approved = cutAtBars k submitted := by
  rw [← splitOn_normalizeCopy_join, ← splitOn_normalizeCopy_join]
  constructor
  · intro h
    rw [h]
  · intro h
    have hjoined := congrArg ['|'].intercalate h
    rw [List.intercalate_splitOn, List.intercalate_splitOn] at hjoined
    exact String.toList_injective hjoined

/-- Points that agree one by one agree when they are joined. -/
lemma SamePoints.cutAtBars {approved submitted : List String}
    (h : SamePoints k approved submitted) : cutAtBars k approved = cutAtBars k submitted := by
  have hmap : approved.map (normalizeCopy k) = submitted.map (normalizeCopy k) := by
    induction h with
    | nil => rfl
    | cons hp _ ih => rw [List.map_cons, List.map_cons, hp, ih]
  rw [← normalizeCopy_join_inj, ← String.toList_inj, toList_normalizeCopy_join,
    toList_normalizeCopy_join]
  have hlists := congrArg (List.map String.toList) hmap
  rw [List.map_map, List.map_map] at hlists
  exact congrArg _ hlists

lemma posterVerdict_ok {checkedAt : Time} {locale : String} {approved : PosterCopy}
    {input : PosterVerifyRequest} :
    (posterVerdict k checkedAt locale approved input).ok = true ↔ SameFields k approved input ∧
      cutAtBars k approved.sellingPoints = cutAtBars k input.points := by
  simp only [posterVerdict, decide_eq_true_eq, comparePosterCopy, pushCopyMismatch_eq_nil,
    PosterVerifyRequest.submittedCopy, normalizeCopy_trim, normalizeCopy_join_inj, true_and]
  constructor
  · rintro ⟨⟨⟨⟨hhead, hsub⟩, hcta⟩, hnote⟩, hpoints⟩
    exact ⟨⟨hhead, hsub, hcta, hnote⟩, hpoints⟩
  · rintro ⟨⟨hhead, hsub, hcta, hnote⟩, hpoints⟩
    exact ⟨⟨⟨⟨hhead, hsub⟩, hcta⟩, hnote⟩, hpoints⟩

/-- **When the comparison is exact.**  A poster is found good if and only if all its texts agree
with the approved ones, the selling points one by one, unless the single texts agree and the points
differ in nothing but where bars and the borders between points stand. -/
theorem poster_verify_exact_iff (k : LetterClasses) (checkedAt : Time) (locale : String)
    (approved : PosterCopy) (input : PosterVerifyRequest) :
    ((posterVerdict k checkedAt locale approved input).ok = true ↔
        SameFields k approved input ∧ SamePoints k approved.sellingPoints input.points) ↔
      ¬ (SameFields k approved input ∧
        DividedOtherwise k approved.sellingPoints input.points) := by
  rw [posterVerdict_ok]
  constructor
  · rintro hexact ⟨hfields, hcut, hdiffer⟩
    exact hdiffer (hexact.mp ⟨hfields, hcut⟩).2
  · intro hdivided
    constructor
    · rintro ⟨hfields, hcut⟩
      refine ⟨hfields, ?_⟩
      by_contra hdiffer
      exact hdivided ⟨hfields, hcut, hdiffer⟩
    · rintro ⟨hfields, hpoints⟩
      exact ⟨hfields, hpoints.cutAtBars⟩

/-- Two points put into one are not noticed. -/
theorem poster_verify_merged_points :
    ¬ ∀ (k : LetterClasses) (checkedAt : Time) (locale : String) (approved : PosterCopy)
      (input : PosterVerifyRequest),
      ((posterVerdict k checkedAt locale approved input).ok = true ↔
        SameFields k approved input ∧ SamePoints k approved.sellingPoints input.points) := by
  intro h
  let approved : PosterCopy := ⟨"Mug", "", ["Color: red", "Size: S"], "", ""⟩
  let input : PosterVerifyRequest :=
    ⟨⟨some "1", none, none⟩, some "en", "Mug", "", ["Color: red | Size: S"], "", ""⟩
  have hok : (posterVerdict asciiLetters 0 "en" approved input).ok = true := by decide +kernel
  have hpoints := ((h asciiLetters 0 "en" approved input).mp hok).2
  have hone : input.points.length = 1 := by decide +kernel
  have hlen := hpoints.length_eq
  rw [hone] at hlen
  exact absurd hlen (by decide)

end OzonSuite
