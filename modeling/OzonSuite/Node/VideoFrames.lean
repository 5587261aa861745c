/-
# What a request for a video carries

A vendor reads the first frame, the last frame and the prompt out of the fields that its form has
for them.  This file follows the three from the inputs of a job into the body of the request, in
every dialect.
-/
import OzonSuite.Node.VideoDialects

namespace OzonSuite

open Lib

/-! ## Reading a body -/

/-- What a user asks for: the frames and the prompt. -/
structure Asked where
  firstFrame : String
  lastFrame : Option String
  prompt : String
deriving DecidableEq

/-- What a caller asks for. -/
def CreateInputs.asked (i : CreateInputs) : Asked :=
  { firstFrame := i.firstFrameUrl, lastFrame := i.lastFrameUrl, prompt := i.prompt }

/-- The frames of a list of images: the first is the first frame, and the second is the last. -/
def readImages : Json → Option (String × Option String)
  | .array (first :: rest) => first.asString.map fun url => (url, rest.head?.bind Json.asString)
  | _ => none

/-- The image at a position. -/
def imageAt (position : String) (images : List Json) : Option String :=
  (images.find? fun image => image.textAt "position" = some position).bind (Json.textAt "uri")

/-- The frames of a prompt image: one URL, or an array of frames with their positions. -/
def readPromptImage : Json → Option (String × Option String)
  | .string url => some (url, none)
  | .array images => (imageAt "first" images).map fun url => (url, imageAt "last" images)
  | _ => none

/-- The frames, in the fields that a dialect has for them. -/
def readFrames (dialect : VideoDialect) (body : Json) : Option (String × Option String) :=
  match dialect with
  | .openAiCompat => ((body.get? "first_frame").bind (Json.textAt "url")).map fun url =>
      (url, (body.get? "last_frame").bind (Json.textAt "url"))
  | .miniMax => (body.textAt "first_frame_image").map fun url =>
      (url, body.textAt "last_frame_image")
  | .kling => (body.textAt "image").map fun url => (url, body.textAt "image_tail")
  | .vidu => (body.get? "images").bind readImages
  | .jimeng => (body.get? "image_urls").bind readImages
  | .runway => (body.get? "promptImage").bind readPromptImage

/-- The field of the prompt. -/
def promptField : VideoDialect → String
  | .runway => "promptText"
  | _ => "prompt"

/-- What a vendor finds in a body. -/
def readBody (dialect : VideoDialect) (body : Json) : Option Asked := do
  let (firstFrame, lastFrame) ← readFrames dialect body
  let prompt ← body.textAt (promptField dialect)
  return { firstFrame := firstFrame, lastFrame := lastFrame, prompt := prompt }

/-! ## Fields -/

namespace Json

variable {key other : String} {value : Json} {fields : List (String × Json)}

@[simp] lemma get?_object : (object fields).get? key = fields.lookup key := rfl

/-- Another field is as it was. -/
@[simp] lemma get?_setSome_of_ne {body : Json} {value : Option Json} (h : key ≠ other) :
    (body.setSome other value).get? key = body.get? key := by
  cases value with
  | none => rfl
  | some value =>
    cases body with
    | object fields =>
      have hfilter : (fields.filter (·.1 ≠ other)).lookup key = fields.lookup key := by
        induction fields with
        | nil => rfl
        | cons field fields ih =>
          obtain ⟨name, stored⟩ := field
          by_cases hname : name = other
          · have hkey : (key == name) = false := beq_eq_false_iff_ne.mpr (hname ▸ h)
            simp only [List.lookup_cons, hkey, ← ih]
            simp [hname]
          · simp only [List.lookup_cons, ← ih]
            simp [hname, List.lookup_cons]
      rw [setSome, set, get?_object, List.lookup_cons, beq_eq_false_iff_ne.mpr h, hfilter]
      rfl
    | _ => rfl

@[simp] lemma get?_setSome_self {value : Option Json} :
    ((object fields).setSome key value).get? key = value.or (fields.lookup key) := by
  cases value with
  | none => simp [setSome]
  | some value => simp [setSome, set]

@[simp] lemma textAt_of_get? {body : Json} : body.textAt key = (body.get? key).bind asString := rfl

@[simp] lemma asString_string {text : String} : (string text).asString = some text := rfl

end Json

/-! ## The requests -/

/-- What a dialect transmits of what is asked for. -/
def transmitted (dialect : VideoDialect) (i : CreateInputs) : Asked :=
  if dialect = .vidu then { i.asked with lastFrame := none } else i.asked

section Requests

variable {x : VideoCrates} {dialect : VideoDialect} {i : CreateInputs} {now : ℤ}

/-- What a vendor finds in the body of the request that is built for it. -/
lemma readBody_buildCreate :
    (buildCreate x dialect i now).body.bind (readBody dialect) = some (transmitted dialect i) := by
  cases dialect with
  | openAiCompat =>
    cases h : i.lastFrameUrl <;>
      simp [buildCreate, buildCreateOpenai, readBody, readFrames, promptField, transmitted,
        CreateInputs.asked, List.lookup_cons, h]
  | miniMax =>
    cases h : i.lastFrameUrl <;>
      simp [buildCreate, buildCreateMinimax, readBody, readFrames, promptField, transmitted,
        CreateInputs.asked, List.lookup_cons, h]
  | vidu =>
    simp [buildCreate, buildCreateVidu, readBody, readFrames, readImages, promptField, transmitted,
      CreateInputs.asked, List.lookup_cons]
  | runway =>
    cases h : i.lastFrameUrl <;>
      simp [buildCreate, buildCreateRunway, runwayPromptImage, readBody, readFrames,
        readPromptImage, imageAt, promptField, transmitted, CreateInputs.asked, List.lookup_cons, h]
  | kling =>
    cases h : i.lastFrameUrl <;>
      simp [buildCreate, buildCreateKling, readBody, readFrames, promptField, transmitted,
        CreateInputs.asked, List.lookup_cons, h]
  | jimeng =>
    cases h : i.lastFrameUrl <;>
      simp [buildCreate, buildCreateJimeng, jimengCreateBody, readBody, readFrames, readImages,
        promptField, transmitted, CreateInputs.asked, List.lookup_cons, h]

/-- And in the body of the request that the node sends. -/
lemma readBody_videoCreateRequest {auth : AuthStyle} :
    (videoCreateRequest x dialect auth i now).body.bind (readBody dialect) =
      some (transmitted dialect i) := by
  by_cases hdialect : dialect = .openAiCompat
  · -- where the key stands does not matter to the body
    have hbody : ∀ request : OutboundRequest,
        (applyAuth request auth i.apiKey).body = request.body := fun _ => by cases auth <;> rfl
    subst hdialect
    rw [videoCreateRequest, if_pos rfl, hbody]
    cases h : i.lastFrameUrl <;>
      simp [readBody, readFrames, promptField, transmitted, CreateInputs.asked, List.lookup_cons, h]
  · rw [videoCreateRequest, if_neg hdialect]
    exact readBody_buildCreate

lemma transmitted_eq_asked :
    transmitted dialect i = i.asked ↔ (dialect = .vidu → i.lastFrameUrl = none) := by
  rw [transmitted]
  split
  · next hvidu => simp [CreateInputs.asked, hvidu, eq_comm]
  · next hvidu => simp [hvidu]

end Requests

/-! ## Transmission -/

/-- Two bodies transmit what is asked for: each has the two frames and the prompt in their fields,
and if anything else is asked for in the one than in the other, the bodies differ. -/
structure Transmit (dialect : VideoDialect) (i i' : CreateInputs) (body body' : Option Json) :
    Prop where
  carries : body.bind (readBody dialect) = some i.asked
  carries' : body'.bind (readBody dialect) = some i'.asked
  distinct : i.asked ≠ i'.asked → body ≠ body'

/-- Bodies in which what is transmitted can be read. -/
lemma transmit_iff {dialect : VideoDialect} {i i' : CreateInputs} {body body' : Option Json}
    (hbody : body.bind (readBody dialect) = some (transmitted dialect i))
    (hbody' : body'.bind (readBody dialect) = some (transmitted dialect i')) :
    Transmit dialect i i' body body' ↔
      (dialect = .vidu → i.lastFrameUrl = none ∧ i'.lastFrameUrl = none) := by
  have hall : (dialect = .vidu → i.lastFrameUrl = none ∧ i'.lastFrameUrl = none) ↔
      transmitted dialect i = i.asked ∧ transmitted dialect i' = i'.asked := by
    rw [transmitted_eq_asked, transmitted_eq_asked, ← imp_and]
  rw [hall]
  constructor
  · intro h
    exact ⟨Option.some.inj (hbody.symm.trans h.carries),
      Option.some.inj (hbody'.symm.trans h.carries')⟩
  · rintro ⟨hasked, hasked'⟩
    rw [hasked] at hbody
    rw [hasked'] at hbody'
    refine ⟨hbody, hbody', fun hdiffer hsame => hdiffer ?_⟩
    rw [hsame, hbody'] at hbody
    exact (Option.some.inj hbody).symm

/-- **When a dialect transmits what is asked for.**  In the request that the node sends to create a
job, and in the one that is built for the dialect, the first frame, the last frame and the prompt
stand unchanged in fields of their own, and requests for different frames or prompts have different
bodies, unless the dialect is that of Vidu and there is a last frame: it is left out. -/
theorem create_transmits_iff (x : VideoCrates) (dialect : VideoDialect) (auth auth' : AuthStyle)
    (i i' : CreateInputs) (now now' : ℤ) :
    (Transmit dialect i i' (videoCreateRequest x dialect auth i now).body
        (videoCreateRequest x dialect auth' i' now').body ↔
      (dialect = .vidu → i.lastFrameUrl = none ∧ i'.lastFrameUrl = none)) ∧
    (Transmit dialect i i' (buildCreate x dialect i now).body
        (buildCreate x dialect i' now').body ↔
      (dialect = .vidu → i.lastFrameUrl = none ∧ i'.lastFrameUrl = none)) :=
  ⟨transmit_iff readBody_videoCreateRequest readBody_videoCreateRequest,
    transmit_iff readBody_buildCreate readBody_buildCreate⟩

/-- The library functions where nothing is signed. -/
def unsignedCrates : VideoCrates where
  jsonBytes _ := []
  base64Url _ := ""
  hmacSha256 _ _ := []
  sha256Hex _ := ""
  hexEncode _ := ""
  parseFloat _ := none
  formatXDate _ := "20260101T000000Z"

/-- A clip of a product that turns. -/
def turnClip (lastFrame : Option String) : CreateInputs where
  baseUrl := "https://api.vidu.com"
  model := "vidu2.0"
  apiKey := "vda-key"
  prompt := "turn it"
  firstFrameUrl := "https://img/front.png"
  lastFrameUrl := lastFrame
  durationSeconds := 8
  extra := []

/-- The request to Vidu for a clip with a last frame: the frame is not in the body, which is that of
the same clip without one. -/
theorem vidu_drops_last_frame :
    ¬ ∀ (x : VideoCrates) (dialect : VideoDialect) (auth auth' : AuthStyle) (i i' : CreateInputs)
      (now now' : ℤ), Transmit dialect i i' (videoCreateRequest x dialect auth i now).body
        (videoCreateRequest x dialect auth' i' now').body := by
  intro h
  have hclips := h unsignedCrates .vidu .bearer .bearer (turnClip (some "https://img/back.png"))
    (turnClip none) 0 0
  exact hclips.distinct (by decide) rfl

end OzonSuite
