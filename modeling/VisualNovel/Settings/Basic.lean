import VisualNovel.Color
import VisualNovel.Layout
import VisualNovel.Settings.Scalar

/-!
# Settings

The settings of the player and their check against a document. Every field that is missing has a
default, unless it is part of a size, a box or a color. Unknown keys are refused at the top and
ignored below. A dump of settings passes the check and gives the same settings.
-/
namespace VisualNovel

structure FontChoice where
  path : Option String := none
  size : Int := 24
deriving DecidableEq, Inhabited, Repr

structure Settings where
  scriptPath : String := "resources/script.txt"
  baseDir : String := "."
  renderDir : String := "resources/render"
  cacheDir : String := "resources/render/.cache"
  cacheEnabled : Bool := true
  screen : Resolution := ⟨640, 480⟩
  textBox : Rectangle := ⟨20, 340, 600, 140⟩
  font : FontChoice := {}
  textColor : Color := .white
  boxColor : Color := .shade
deriving DecidableEq, Inhabited, Repr

namespace Settings

open VisualNovel.Text

variable {α β : Type}

abbrev Entries := List (Datum × Datum)

/-- Checks the value of a key, which may be missing if there is a default. -/
def field (entries : Entries) (key : String) (check : Datum → Checked α)
    (default : Option α := none) : Checked α :=
  match Datum.value? key entries with
  | some d => (check d).under key
  | none =>
    match default with
    | some a => .ok a
    | none => (Checked.fail .missing).under key

/-- Checks the entries of a mapping that stands for a record. -/
def recordOf (record : String) (check : Entries → Checked α) : Datum → Checked α
  | .map entries => check entries
  | _ => Checked.fail (.recordType record)

def resolution : Datum → Checked Resolution :=
  recordOf "Resolution" fun es =>
    let side (key : String) : Checked Int := field es key (integerThat (greaterThan 0))
    Checked.apply (Checked.apply (.ok Resolution.mk) (side "width")) (side "height")

def rectangle : Datum → Checked Rectangle :=
  recordOf "Rectangle" fun es =>
    let corner (key : String) : Checked Int := field es key integer
    let side (key : String) : Checked Int := field es key (integerThat positive)
    Checked.apply (Checked.apply (Checked.apply (Checked.apply (.ok Rectangle.mk) (corner "x"))
      (corner "y")) (side "width")) (side "height")

def channel (d : Datum) : Checked UInt8 :=
  (integerThat channelRange d).map fun i => UInt8.ofNat i.toNat

def color : Datum → Checked Color :=
  recordOf "Color" fun es =>
    Checked.apply (Checked.apply (Checked.apply (Checked.apply (.ok Color.mk)
      (field es "r" channel)) (field es "g" channel)) (field es "b" channel))
      (field es "a" channel (some 255))

def fontChoice : Datum → Checked FontChoice :=
  recordOf "FontSettings" fun es =>
    Checked.apply (Checked.apply (.ok FontChoice.mk) (field es "path" optionalText (some none)))
      (field es "size" (integerThat (greaterThan 0)) (some 24))

def fieldNames : List String :=
  ["script_path", "base_dir", "render_dir", "cache_dir", "cache_enabled", "screen", "text_box",
    "font", "default_text_color", "default_dialogue_color"]

/-- The issues of keys that are no fields, in the order of the document. -/
def strayKeys (entries : Entries) : List Issue :=
  entries.filterMap fun (key, _) =>
    match key with
    | .text k => if fieldNames.contains k then none else some ⟨[k], .extra⟩
    | k => some ⟨[k.scalarLiteral], .invalidKey⟩

/-- Checks a value against no other issues than those given. -/
def refusing (issues : List Issue) (x : Checked α) : Checked α :=
  match x, issues with
  | .ok a, [] => .ok a
  | .ok _, is => .error is
  | .error e, is => .error (e ++ is)

/-- Whether a key cannot be compared with names. -/
def isUnreadableKey : Datum → Bool
  | .text k => holdsSurrogate k
  | _ => false

/-- Checks a document. The issues of fields come first, in the order of the fields. A key that is no
proper text is the only issue. -/
def validate : Datum → Checked Settings :=
  recordOf "EngineSettings" fun es =>
    if es.any fun e => isUnreadableKey e.1 then Checked.fail .textEncoding else
    let d : Settings := {}
    let fields : Checked Settings :=
      Checked.apply (Checked.apply (Checked.apply (Checked.apply (Checked.apply (Checked.apply
        (Checked.apply (Checked.apply (Checked.apply (Checked.apply (.ok Settings.mk)
        (field es "script_path" text (some d.scriptPath)))
        (field es "base_dir" text (some d.baseDir)))
        (field es "render_dir" text (some d.renderDir)))
        (field es "cache_dir" text (some d.cacheDir)))
        (field es "cache_enabled" truth (some d.cacheEnabled)))
        (field es "screen" resolution (some d.screen)))
        (field es "text_box" rectangle (some d.textBox)))
        (field es "font" fontChoice (some d.font)))
        (field es "default_text_color" color (some d.textColor)))
        (field es "default_dialogue_color" color (some d.boxColor))
    refusing (strayKeys es) fields

def record (entries : List (String × Datum)) : Datum :=
  .map (entries.map fun (k, d) => (.text k, d))

def dumpResolution (r : Resolution) : Datum :=
  record [("width", .integer r.width), ("height", .integer r.height)]

def dumpRectangle (r : Rectangle) : Datum :=
  record [("x", .integer r.x), ("y", .integer r.y), ("width", .integer r.width),
    ("height", .integer r.height)]

def channelDatum (b : UInt8) : Datum :=
  .integer b.toNat

def dumpColor (c : Color) : Datum :=
  record [("r", channelDatum c.red), ("g", channelDatum c.green), ("b", channelDatum c.blue),
    ("a", channelDatum c.alpha), ("as_tuple", .list (c.channels.map channelDatum))]

def dumpFont (f : FontChoice) : Datum :=
  record [("path", match f.path with | some p => .text p | none => .null), ("size", .integer f.size)]

/-- The settings as a document. -/
def dump (s : Settings) : Datum :=
  record [("script_path", .text s.scriptPath), ("base_dir", .text s.baseDir),
    ("render_dir", .text s.renderDir), ("cache_dir", .text s.cacheDir),
    ("cache_enabled", .truth s.cacheEnabled), ("screen", dumpResolution s.screen),
    ("text_box", dumpRectangle s.textBox), ("font", dumpFont s.font),
    ("default_text_color", dumpColor s.textColor), ("default_dialogue_color", dumpColor s.boxColor)]

end Settings

end VisualNovel
