import VisualNovel.Proofs.Settings.Check

/-!
# Settings written and read again

A document that passes the check makes settings whose sizes are positive and whose colors have the very
numbers that the document gives. The settings written as a document, together with what they say twice
over, pass the check and make the same settings. A document that does not pass makes none, and it is
said why.
-/
namespace VisualNovel.Settings

open Checked

variable {es : Entries} {d : Datum} {s : Settings}

/-! ## Records of a document -/

theorem resolution_eq_ok_iff {r : Resolution} : resolution d = .ok r ↔ ∃ es, d = .map es ∧
    Gives es "width" (integerThat (greaterThan 0)) none r.width ∧
    Gives es "height" (integerThat (greaterThan 0)) none r.height := by
  simp only [resolution, recordOf_eq_ok_iff, apply_eq_ok_iff, field_eq_ok_iff]
  refine exists_congr fun es => and_congr_right fun _ => ?_
  constructor
  · rintro ⟨_, _, ⟨_, _, hmk, h1, rfl⟩, h2, rfl⟩
    cases hmk
    exact ⟨h1, h2⟩
  · rintro ⟨h1, h2⟩
    exact ⟨_, _, ⟨_, _, rfl, h1, rfl⟩, h2, rfl⟩

theorem rectangle_eq_ok_iff {r : Rectangle} : rectangle d = .ok r ↔ ∃ es, d = .map es ∧
    Gives es "x" integer none r.x ∧ Gives es "y" integer none r.y ∧
    Gives es "width" (integerThat positive) none r.width ∧
    Gives es "height" (integerThat positive) none r.height := by
  simp only [rectangle, recordOf_eq_ok_iff, apply_eq_ok_iff, field_eq_ok_iff]
  refine exists_congr fun es => and_congr_right fun _ => ?_
  constructor
  · rintro ⟨_, _, ⟨_, _, ⟨_, _, ⟨_, _, hmk, h1, rfl⟩, h2, rfl⟩, h3, rfl⟩, h4, rfl⟩
    cases hmk
    exact ⟨h1, h2, h3, h4⟩
  · rintro ⟨h1, h2, h3, h4⟩
    exact ⟨_, _, ⟨_, _, ⟨_, _, ⟨_, _, rfl, h1, rfl⟩, h2, rfl⟩, h3, rfl⟩, h4, rfl⟩

/-- The channels of a color are the very numbers that the members of a mapping are, and the last one is
full if it is left out. -/
structure Paints (members : Entries) (c : Color) : Prop where
  red : Gives members "r" integer none (c.red.toNat : Int)
  green : Gives members "g" integer none (c.green.toNat : Int)
  blue : Gives members "b" integer none (c.blue.toNat : Int)
  alpha : Gives members "a" integer (some 255) (c.alpha.toNat : Int)

theorem gives_channel_iff {key : String} {default : Option UInt8} {b : UInt8} :
    Gives es key channel default b ↔
      Gives es key integer (default.map fun b => (b.toNat : Int)) (b.toNat : Int) := by
  rw [Gives, Gives]
  cases Datum.value? key es with
  | some d => exact channel_eq_ok_iff
  | none =>
    cases default with
    | none => simp
    | some c =>
      constructor
      · intro h
        cases h
        rfl
      · intro h
        have hnat : c.toNat = b.toNat := Int.ofNat.inj (Option.some.inj h)
        exact congrArg some (UInt8.toNat_inj.1 hnat)

theorem color_eq_ok_iff {c : Color} : color d = .ok c ↔ ∃ es, d = .map es ∧ Paints es c := by
  simp only [color, recordOf_eq_ok_iff, apply_eq_ok_iff, field_eq_ok_iff]
  refine exists_congr fun es => and_congr_right fun _ => ?_
  constructor
  · rintro ⟨_, _, ⟨_, _, ⟨_, _, ⟨_, _, hmk, h1, rfl⟩, h2, rfl⟩, h3, rfl⟩, h4, rfl⟩
    cases hmk
    exact ⟨gives_channel_iff.1 h1, gives_channel_iff.1 h2, gives_channel_iff.1 h3,
      gives_channel_iff.1 h4⟩
  · intro h
    exact ⟨_, _, ⟨_, _, ⟨_, _, ⟨_, _, rfl, gives_channel_iff.2 h.red, rfl⟩,
      gives_channel_iff.2 h.green, rfl⟩, gives_channel_iff.2 h.blue, rfl⟩,
      gives_channel_iff.2 h.alpha, rfl⟩

theorem fontChoice_eq_ok_iff {f : FontChoice} : fontChoice d = .ok f ↔ ∃ es, d = .map es ∧
    Gives es "path" optionalText (some none) f.path ∧
    Gives es "size" (integerThat (greaterThan 0)) (some 24) f.size := by
  simp only [fontChoice, recordOf_eq_ok_iff, apply_eq_ok_iff, field_eq_ok_iff]
  refine exists_congr fun es => and_congr_right fun _ => ?_
  constructor
  · rintro ⟨_, _, ⟨_, _, hmk, h1, rfl⟩, h2, rfl⟩
    cases hmk
    exact ⟨h1, h2⟩
  · rintro ⟨h1, h2⟩
    exact ⟨_, _, ⟨_, _, rfl, h1, rfl⟩, h2, rfl⟩

/-- Settings say what the entries of a document say, with the defaults for what these leave out. -/
structure Says (es : Entries) (s : Settings) : Prop where
  scriptPath : Gives es "script_path" text (some ({} : Settings).scriptPath) s.scriptPath
  baseDir : Gives es "base_dir" text (some ({} : Settings).baseDir) s.baseDir
  renderDir : Gives es "render_dir" text (some ({} : Settings).renderDir) s.renderDir
  cacheDir : Gives es "cache_dir" text (some ({} : Settings).cacheDir) s.cacheDir
  cacheEnabled : Gives es "cache_enabled" truth (some ({} : Settings).cacheEnabled) s.cacheEnabled
  screen : Gives es "screen" resolution (some ({} : Settings).screen) s.screen
  textBox : Gives es "text_box" rectangle (some ({} : Settings).textBox) s.textBox
  font : Gives es "font" fontChoice (some ({} : Settings).font) s.font
  textColor : Gives es "default_text_color" color (some ({} : Settings).textColor) s.textColor
  boxColor : Gives es "default_dialogue_color" color (some ({} : Settings).boxColor) s.boxColor

/-- A document makes settings exactly if it is a mapping of known names alone and each value passes its
check. -/
theorem validate_eq_ok_iff : validate d = .ok s ↔ ∃ es, d = .map es ∧
    (es.any fun e => isUnreadableKey e.1) = false ∧ strayKeys es = [] ∧ Says es s := by
  simp only [validate, recordOf_eq_ok_iff]
  refine exists_congr fun es => and_congr_right fun _ => ?_
  cases hreadable : es.any fun e => isUnreadableKey e.1 with
  | true => simp [fail]
  | false =>
    simp only [Bool.false_eq_true, if_false, refusing_eq_ok_iff, true_and]
    refine and_congr_right fun _ => ?_
    simp only [apply_eq_ok_iff, field_eq_ok_iff]
    constructor
    · rintro ⟨_, _, ⟨_, _, ⟨_, _, ⟨_, _, ⟨_, _, ⟨_, _, ⟨_, _, ⟨_, _, ⟨_, _, ⟨_, _, hmk, h1, rfl⟩,
        h2, rfl⟩, h3, rfl⟩, h4, rfl⟩, h5, rfl⟩, h6, rfl⟩, h7, rfl⟩, h8, rfl⟩, h9, rfl⟩, h10, rfl⟩
      cases hmk
      exact ⟨h1, h2, h3, h4, h5, h6, h7, h8, h9, h10⟩
    · intro h
      exact ⟨_, _, ⟨_, _, ⟨_, _, ⟨_, _, ⟨_, _, ⟨_, _, ⟨_, _, ⟨_, _, ⟨_, _, ⟨_, _, rfl, h.scriptPath,
        rfl⟩, h.baseDir, rfl⟩, h.renderDir, rfl⟩, h.cacheDir, rfl⟩, h.cacheEnabled, rfl⟩, h.screen,
        rfl⟩, h.textBox, rfl⟩, h.font, rfl⟩, h.textColor, rfl⟩, h.boxColor, rfl⟩

/-! ## Sizes and colors -/

/-- The sizes of settings are positive. -/
structure Sized (s : Settings) : Prop where
  screen : 0 < s.screen.width ∧ 0 < s.screen.height
  textBox : 0 < s.textBox.width ∧ 0 < s.textBox.height
  font : 0 < s.font.size

/-- A color is the one that the entries of a document give for a key, or the default. -/
def IsColor (es : Entries) (key : String) (default c : Color) : Prop :=
  match Datum.value? key es with
  | some d => ∃ members, d = .map members ∧ Paints members c
  | none => c = default

/-- The colors of settings are those of a document, and their channels are within the range of a byte. -/
structure Colored (es : Entries) (s : Settings) : Prop where
  text : IsColor es "default_text_color" .white s.textColor
  box : IsColor es "default_dialogue_color" .shade s.boxColor
  channels : ∀ n ∈ s.textColor.numbers ++ s.boxColor.numbers, n ≤ 255

theorem pos_of_gives_greaterThan {key : String} {default : Option Int} {i : Int}
    (gives : Gives es key (integerThat (greaterThan 0)) default i)
    (known : ∀ j, default = some j → 0 < j) : 0 < i :=
  gives.of_forall known fun _ _ h => greaterThan_eq_none_iff.1 (integerThat_eq_ok_iff.1 h).2

theorem pos_of_gives_positive {key : String} {i : Int}
    (gives : Gives es key (integerThat positive) none i) : 0 < i :=
  gives.of_forall (fun _ h => nomatch h) fun _ _ h =>
    positive_eq_none_iff.1 (integerThat_eq_ok_iff.1 h).2

theorem Says.sized (h : Says es s) : Sized s where
  screen := by
    refine h.screen.of_forall (p := fun r => 0 < r.width ∧ 0 < r.height) ?_ fun d r hr => ?_
    · rintro _ ⟨⟩
      decide
    · obtain ⟨members, -, hwidth, hheight⟩ := resolution_eq_ok_iff.1 hr
      exact ⟨pos_of_gives_greaterThan hwidth (fun _ h => nomatch h),
        pos_of_gives_greaterThan hheight (fun _ h => nomatch h)⟩
  textBox := by
    refine h.textBox.of_forall (p := fun r => 0 < r.width ∧ 0 < r.height) ?_ fun d r hr => ?_
    · rintro _ ⟨⟩
      decide
    · obtain ⟨members, -, -, -, hwidth, hheight⟩ := rectangle_eq_ok_iff.1 hr
      exact ⟨pos_of_gives_positive hwidth, pos_of_gives_positive hheight⟩
  font := by
    refine h.font.of_forall (p := fun f => 0 < f.size) ?_ fun d f hf => ?_
    · rintro _ ⟨⟩
      decide
    · obtain ⟨members, -, -, hsize⟩ := fontChoice_eq_ok_iff.1 hf
      refine pos_of_gives_greaterThan hsize ?_
      rintro _ ⟨⟩
      decide

theorem isColor_of_gives {key : String} {default c : Color}
    (gives : Gives es key color (some default) c) : IsColor es key default c := by
  rw [Gives] at gives
  rw [IsColor]
  cases hvalue : Datum.value? key es with
  | some d =>
    rw [hvalue] at gives
    exact color_eq_ok_iff.1 gives
  | none =>
    rw [hvalue] at gives
    cases gives
    rfl

theorem Says.colored (h : Says es s) : Colored es s where
  text := isColor_of_gives h.textColor
  box := isColor_of_gives h.boxColor
  channels := by
    intro n hn
    obtain ⟨b, -, rfl⟩ : ∃ b ∈ s.textColor.channels ++ s.boxColor.channels, b.toNat = n := by
      simpa [Color.numbers, ← List.map_append] using hn
    have := b.toNat_lt
    omega

/-! ## The way back -/

theorem integerThat_integer {test : Int → Option IssueKind} {i : Int} (h : test i = none) :
    integerThat test (.integer i) = .ok i :=
  integerThat_eq_ok_iff.2 ⟨rfl, h⟩

theorem resolution_dumpResolution {r : Resolution} (h : 0 < r.width ∧ 0 < r.height) :
    resolution (dumpResolution r) = .ok r :=
  resolution_eq_ok_iff.2 ⟨_, rfl,
    gives_of_value? rfl (integerThat_integer (greaterThan_eq_none_iff.2 h.1)),
    gives_of_value? rfl (integerThat_integer (greaterThan_eq_none_iff.2 h.2))⟩

theorem rectangle_dumpRectangle {r : Rectangle} (h : 0 < r.width ∧ 0 < r.height) :
    rectangle (dumpRectangle r) = .ok r :=
  rectangle_eq_ok_iff.2 ⟨_, rfl, gives_of_value? rfl rfl, gives_of_value? rfl rfl,
    gives_of_value? rfl (integerThat_integer (positive_eq_none_iff.2 h.1)),
    gives_of_value? rfl (integerThat_integer (positive_eq_none_iff.2 h.2))⟩

/-- The list of the channels that a written color has is left out of account. -/
theorem color_dumpColor (c : Color) : color (dumpColor c) = .ok c :=
  color_eq_ok_iff.2 ⟨_, rfl, gives_of_value? rfl rfl, gives_of_value? rfl rfl,
    gives_of_value? rfl rfl, gives_of_value? rfl rfl⟩

theorem fontChoice_dumpFont {f : FontChoice} (h : 0 < f.size) : fontChoice (dumpFont f) = .ok f := by
  refine fontChoice_eq_ok_iff.2 ⟨_, rfl, gives_of_value? rfl ?_,
    gives_of_value? rfl (integerThat_integer (greaterThan_eq_none_iff.2 h))⟩
  cases f.path <;> rfl

theorem Sized.validate_dump (h : Sized s) : validate s.dump = .ok s :=
  validate_eq_ok_iff.2 ⟨_, rfl, rfl, rfl, {
    scriptPath := gives_of_value? rfl rfl
    baseDir := gives_of_value? rfl rfl
    renderDir := gives_of_value? rfl rfl
    cacheDir := gives_of_value? rfl rfl
    cacheEnabled := gives_of_value? rfl rfl
    screen := gives_of_value? rfl (resolution_dumpResolution h.screen)
    textBox := gives_of_value? rfl (rectangle_dumpRectangle h.textBox)
    font := gives_of_value? rfl (fontChoice_dumpFont h.font)
    textColor := gives_of_value? rfl (color_dumpColor s.textColor)
    boxColor := gives_of_value? rfl (color_dumpColor s.boxColor) }⟩

/-! ## Refusals -/

theorem explains_resolution (d : Datum) : Explains (resolution d) := by
  have hside (es : Entries) (key : String) :
      Explains (field es key (integerThat (greaterThan 0)) (none : Option Int)) :=
    explains_field none fun d => explains_integerThat _ d
  exact explains_recordOf (fun es => (explains_ok.apply (hside es _)).apply (hside es _)) d

theorem explains_rectangle (d : Datum) : Explains (rectangle d) := by
  have hcorner (es : Entries) (key : String) : Explains (field es key integer) :=
    explains_field none explains_integer
  have hside (es : Entries) (key : String) : Explains (field es key (integerThat positive)) :=
    explains_field none fun d => explains_integerThat _ d
  exact explains_recordOf (fun es => (((explains_ok.apply (hcorner es _)).apply (hcorner es _)).apply
    (hside es _)).apply (hside es _)) d

theorem explains_color (d : Datum) : Explains (color d) := by
  have hchannel (es : Entries) (key : String) (default : Option UInt8) :
      Explains (field es key channel default) :=
    explains_field default explains_channel
  exact explains_recordOf (fun es => (((explains_ok.apply (hchannel es _ _)).apply
    (hchannel es _ _)).apply (hchannel es _ _)).apply (hchannel es _ _)) d

theorem explains_fontChoice (d : Datum) : Explains (fontChoice d) :=
  explains_recordOf (fun _ => (explains_ok.apply
    (explains_field _ explains_optionalText)).apply
      (explains_field _ fun d => explains_integerThat _ d)) d

theorem explains_validate (d : Datum) : Explains (validate d) := by
  refine explains_recordOf (fun es => ?_) d
  split
  · simp
  · refine explains_refusing _ ?_
    refine .apply (.apply (.apply (.apply (.apply (.apply (.apply (.apply (.apply (.apply
      explains_ok ?_) ?_) ?_) ?_) ?_) ?_) ?_) ?_) ?_) ?_
    · exact explains_field _ explains_text
    · exact explains_field _ explains_text
    · exact explains_field _ explains_text
    · exact explains_field _ explains_text
    · exact explains_field _ explains_truth
    · exact explains_field _ explains_resolution
    · exact explains_field _ explains_rectangle
    · exact explains_field _ explains_fontChoice
    · exact explains_field _ explains_color
    · exact explains_field _ explains_color

/-- Every document either makes settings or is refused with at least one issue. Settings that are made
have positive sizes and colors whose channels are the numbers of the document, from 0 to 255; written
as a document they make the same settings again. -/
theorem accepted_reload (d : Datum) :
    (∃ es s, d = .map es ∧ validate d = .ok s ∧ Sized s ∧ Colored es s ∧ validate s.dump = .ok s) ∨
      ∃ issue issues, validate d = .error (issue :: issues) := by
  cases hd : validate d with
  | ok s =>
    obtain ⟨es, hes, -, -, hsays⟩ := validate_eq_ok_iff.1 hd
    exact Or.inl ⟨es, s, hes, rfl, hsays.sized, hsays.colored, hsays.sized.validate_dump⟩
  | error issues =>
    cases issues with
    | nil => exact absurd hd (explains_validate d)
    | cons issue issues => exact Or.inr ⟨issue, issues, rfl⟩

/-- A truth value, a whole number with a point and the digits of a text are taken for integers, and a
color is read with a key that only its dump has. -/
theorem accepted_reload_lax :
    ∃ d es s, d = .map es ∧ validate d = .ok s ∧ s.screen = ⟨1, 200⟩ ∧ s.font = ⟨none, 12⟩ ∧
      s.textColor = ⟨255, 0, 1, 128⟩ ∧ Sized s ∧ Colored es s ∧ validate s.dump = .ok s := by
  obtain ⟨d, hd⟩ : ∃ d, d = record [
      ("screen", record [("width", .truth true), ("height", .text "200")]),
      ("font", record [("size", .real ⟨0x4028000000000000⟩)]),
      ("default_text_color", record [("r", .integer 255), ("g", .integer 0), ("b", .truth true),
        ("a", .text "128"), ("as_tuple", .list [])])] := ⟨_, rfl⟩
  have hvalid : (validate d).toOption =
      some { screen := ⟨1, 200⟩, font := ⟨none, 12⟩, textColor := ⟨255, 0, 1, 128⟩ } := by
    rw [hd]
    decide +kernel
  obtain ⟨es, s, hes, hs, sized, colored, reload⟩ | ⟨issue, issues, hrefused⟩ := accepted_reload d
  · rw [hs] at hvalid
    cases hvalid
    exact ⟨d, es, _, hes, hs, rfl, rfl, rfl, sized, colored, reload⟩
  · rw [hrefused] at hvalid
    cases hvalid

end VisualNovel.Settings
