import Mathlib.Algebra.Group.Int.Defs
import VisualNovel.Proofs.Cache.Room
import VisualNovel.Proofs.Frame.Channel
import VisualNovel.Proofs.Stage.History
import VisualNovel.Proofs.Stage.Render

/-!
# Every frame has a fingerprint

Coordinates are bounded where a script is read, and from there the bound is carried through all steps to
the sprites of a frame; colors come from the settings or from an attribute, and their channels are bytes
either way. So no number that a script can write keeps its frames from having a fingerprint; only a text
can, one that holds an unpaired surrogate. No file does, but a text that is parsed as it is may. (The
characters from U+10D800 to U+10DFFF are the stand-ins of surrogates and are left out as characters.)
-/
namespace VisualNovel

def AttributeTree.Spells (t : AttributeTree) (c : Color) : Prop :=
  ∃ name value, t.valueOf? name = some value ∧ Color.Spells value c

theorem Fingerprint.textsEncodable_of_encodable {d : DialogueFrame} (h : encodable d = true) :
    TextsEncodable d := by
  simp only [encodable, Bool.and_eq_true, List.all_eq_true, Option.all_eq_true] at h
  obtain ⟨⟨⟨⟨hid, hcount⟩, hsprites⟩, hspeaker⟩, htext⟩ := h
  refine ⟨hid, hcount, fun v hv => ?_, hspeaker, htext⟩
  have hfields := hsprites v hv
  simp only [spriteEncodable, Bool.and_eq_true] at hfields
  exact hfields.1.1

namespace Stage

variable {settings : Settings} {script : Script} {past : List Event} {s t : Stage}
  {d : DialogueFrame} {v : SpriteView} {c : Color} {name speaker : String}

theorem spells_of_colorOf {t : AttributeTree} (h : t.colorOf name = .ok (some c)) :
    t.Spells c := by
  rw [AttributeTree.colorOf, AttributeTree.readAs] at h
  cases hvalue : t.valueOf? name with
  | none =>
    rw [hvalue] at h
    cases h
  | some value =>
    simp only [hvalue] at h
    cases hcolor : Color.ofText value with
    | error e =>
      rw [hcolor] at h
      cases h
    | ok color =>
      rw [hcolor] at h
      cases h
      exact ⟨name, value, hvalue, Color.spells_of_ofText hcolor⟩

theorem textColor_cases (h : s.textColor speaker = .ok c) :
    c = s.settings.textColor ∨ s.attributes.Spells c := by
  obtain ⟨color, hcolor, hc⟩ := exists_of_bind h
  cases hc
  cases color with
  | none => exact Or.inl rfl
  | some color => exact Or.inr (spells_of_colorOf hcolor)

theorem boxColor_cases (h : s.boxColor speaker = .ok c) :
    c = s.settings.boxColor ∨ s.attributes.Spells c := by
  obtain ⟨color, hcolor, hc⟩ := exists_of_bind h
  cases color with
  | some color =>
    cases hc
    exact Or.inr (spells_of_colorOf hcolor)
  | none =>
    simp only at hc
    split at hc
    · obtain ⟨alone, halone, hc⟩ := exists_of_bind hc
      cases hc
      cases alone with
      | none => exact Or.inl rfl
      | some color => exact Or.inr (spells_of_colorOf halone)
    · cases hc
      exact Or.inl rfl

theorem Stopped.bounded (h : Stopped s t) (hs : s.Bounded) : t.Bounded := by
  cases h <;> exact ⟨hs.script, hs.library, hs.resolved, hs.cast, hs.loaded⟩

theorem Stopped.settings_eq (h : Stopped s t) : t.settings = s.settings := by
  cases h <;> rfl

/-- Whatever a play does, it stays in bounds. -/
theorem Past.bounded (h : Past settings script past s) (hscript : script.Bounded) :
    s.Bounded := by
  induction h with
  | opening => exact bounded_opening settings hscript
  | @moved past s choice session event q _ run ih =>
    exact (bounded_advance (p := ⟨session, s⟩) ih run).1
  | stopped _ run ih => exact (stopped_of_run run).bounded ih
  | cached cache _ ih => exact ⟨ih.script, ih.library, ih.resolved, ih.cast, ih.loaded⟩

theorem Past.settings_eq (h : Past settings script past s) : s.settings = settings := by
  induction h with
  | opening => rfl
  | moved _ run ih => exact (moved_of_run run).settings_eq.trans ih
  | stopped _ run ih => exact (stopped_of_run run).settings_eq.trans ih
  | cached cache _ ih => exact ih

/-- A sprite of a frame is where the last directive for it has put it. -/
theorem Past.placed (h : Past settings script past s) (hd : s.frame = .ok (some (.dialogue d)))
    (hv : v ∈ d.sprites) : ∃ placement : Placement,
      lastFor past v.name = some (.directive (.show v.name placement)) ∧
        v.path = placement.path ∧ v.x = placement.x ∧ v.y = placement.y := by
  obtain ⟨sprite, hsprite, scale, rfl⟩ := (depicts_of_frame hd).exists_of_mem hv
  obtain ⟨placement, hplace, hlast⟩ := (h.castBy.mem_iff sprite).1 hsprite
  refine ⟨placement, hlast, ?_⟩
  rw [← hplace]
  exact ⟨rfl, rfl, rfl⟩

/-- A frame in bounds has a fingerprint exactly if its texts can be encoded. -/
theorem Bounded.exists_fingerprint_iff (h : s.Bounded)
    (hd : s.frame = .ok (some (.dialogue d))) :
    (∃ n, d.fingerprint? = some n) ↔ Fingerprint.TextsEncodable d := by
  rw [DialogueFrame.fingerprint?_eq]
  constructor
  · rintro ⟨n, hn⟩
    split at hn
    · rename_i hencodable
      exact Fingerprint.textsEncodable_of_encodable hencodable
    · cases hn
  · intro htexts
    rw [if_pos (h.encodable hd htexts)]
    exact ⟨_, rfl⟩

/-- Whatever scripts that could be read a play has gone through, and whatever has failed on the way, the
frame of a line of dialogue has a fingerprint of 64 bits unless one of its texts has no bytes because it
holds an unpaired surrogate: only the size of a text or of the list of sprites, beyond all that a machine
of 64 bits holds, could also keep it from having one. Each of its sprites stands where the last directive
for it has shown it, at coordinates below 2 ^ 32. Each of its colors is the one of the settings or is
spelled by an attribute, and no number is cut to fit into a channel: neither one that hexadecimal digits
write nor one that a document of settings gives. -/
theorem frame_has_fingerprint {source : String} (parsed : Script.parse source name = .ok script)
    (h : Past settings script past s) (hd : s.frame = .ok (some (.dialogue d))) :
    (∀ v ∈ d.sprites,
      (∃ placement : Placement, lastFor past v.name = some (.directive (.show v.name placement)) ∧
        v.path = placement.path ∧ v.x = placement.x ∧ v.y = placement.y) ∧
      0 ≤ v.x ∧ v.x < 2 ^ 32 ∧ 0 ≤ v.y ∧ v.y < 2 ^ 32) ∧
    (d.textColor = settings.textColor ∨ s.attributes.Spells d.textColor) ∧
    (d.boxColor = settings.boxColor ∨ s.attributes.Spells d.boxColor) ∧
    (∀ (document : Datum) (channel : UInt8),
      Settings.channel document = .ok channel ↔
        Settings.integer document = .ok (channel.toNat : Int)) ∧
    (∀ n ∈ d.textColor.numbers ++ d.boxColor.numbers, n ≤ 255) ∧
    ((∃ n, d.fingerprint? = some n) ↔ Fingerprint.TextsEncodable d) ∧
    ∀ n, d.fingerprint? = some n → n < 2 ^ 64 := by
  have hbounded := h.bounded (Script.bounded_of_parse parsed)
  have hdepicts := depicts_of_frame hd
  refine ⟨fun v hv => ⟨h.placed hd hv, ?_⟩, ?_, ?_, fun _ _ => Settings.channel_eq_ok_iff, ?_,
    hbounded.exists_fingerprint_iff hd, fun _ => RenderCache.fingerprint?_lt⟩
  · obtain ⟨sprite, hsprite, scale, rfl⟩ := hdepicts.exists_of_mem hv
    have hgreatest : ∀ i : Int, i ≤ ArgumentProblem.maxCoordinate → i < 2 ^ 32 := by
      intro i hi
      simp only [ArgumentProblem.maxCoordinate] at hi
      omega
    obtain ⟨hx₀, hx₁, hy₀, hy₁⟩ := hbounded.cast sprite hsprite
    exact ⟨hx₀, hgreatest _ hx₁, hy₀, hgreatest _ hy₁⟩
  · rw [← h.settings_eq]
    exact textColor_cases hdepicts.textColor
  · rw [← h.settings_eq]
    exact boxColor_cases hdepicts.boxColor
  · intro n hn
    rw [Color.numbers, Color.numbers, ← List.map_append] at hn
    obtain ⟨channel, -, rfl⟩ := List.mem_map.1 hn
    exact Nat.le_of_lt_succ channel.toNat_lt

/-- Leading zeros and the greatest coordinate, a hide with coordinates, and a color of an attribute. -/
theorem frame_has_fingerprint_greatest :
    ∃ script past s d n,
      Script.parse ("@sprite(a, p.png, 007, 4294967295, show)\n" ++
        "@sprite(b, q.png, 1, 2, hide)\n" ++
          "@attr(character.A.text_color, ff000080)\n[A]\nhi") "s.txt" = .ok script ∧
      Past {} script past s ∧ s.frame = .ok (some (.dialogue d)) ∧
      d.sprites = [⟨"a", "p.png", 7, 4294967295, none⟩] ∧ d.textColor = ⟨255, 0, 0, 128⟩ ∧
      d.fingerprint? = some n ∧ n < 2 ^ 64 := by
  obtain ⟨script, hscript⟩ : ∃ script : Script, script = ⟨"s.txt",
      [.directive (.show "a" ⟨"p.png", 7, 4294967295⟩),
        .directive (.hide "b" (some ⟨"q.png", 1, 2⟩)),
        .directive (.attribute "character.A" "text_color" "ff000080"), .dialogue "A" ["hi"]]⟩ :=
    ⟨_, rfl⟩
  have hparse : Script.parse ("@sprite(a, p.png, 007, 4294967295, show)\n" ++
      "@sprite(b, q.png, 1, 2, hide)\n" ++
        "@attr(character.A.text_color, ff000080)\n[A]\nhi") "s.txt" = .ok script := by
    rw [hscript]
    decide +kernel
  obtain ⟨d, hd⟩ : ∃ d : DialogueFrame, d =
      { sprites := [⟨"a", "p.png", 7, 4294967295, none⟩]
        speaker := "A"
        text := "hi"
        textColor := ⟨255, 0, 0, 128⟩ } := ⟨_, rfl⟩
  obtain ⟨e₁, e₂, e₃, p₁, p₂, p₃, h₁, h₂, h₃, hframe⟩ :
      ∃ e₁ e₂ e₃ p₁ p₂ p₃, (advance false).run ⟨{}, opening {} script⟩ = .ok e₁ p₁ ∧
        (advance false).run p₁ = .ok e₂ p₂ ∧ (advance false).run p₂ = .ok e₃ p₃ ∧
        p₃.stage.frame = .ok (some (.dialogue d)) := by
    rw [hscript, hd]
    exact ⟨_, _, _, _, _, _, rfl, rfl, rfl, by decide +kernel⟩
  have hpast : Past {} script _ p₃.stage := ((Past.opening.moved h₁).moved h₂).moved h₃
  obtain ⟨-, -, -, -, -, hiff, hlt⟩ := frame_has_fingerprint hparse hpast hframe
  obtain ⟨n, hn⟩ := hiff.2 (by
    rw [hd]
    exact ⟨by simp, by decide, by decide +kernel, by decide +kernel, by decide +kernel⟩)
  refine ⟨script, _, _, d, n, hparse, hpast, hframe, ?_, ?_, hn, hlt n hn⟩
  · rw [hd]
  · rw [hd]

/-- A text that holds an unpaired surrogate is read as any other, and a frame that shows it has no
fingerprint. -/
theorem exists_frame_without_fingerprint :
    ∃ script past s d e,
      Script.parse ("[A]\n" ++ String.singleton (Text.charOfPoint 0xD800)) "s.txt" = .ok script ∧
      Past {} script past s ∧ s.frame = .ok (some (.dialogue d)) ∧ d.fingerprint = .error e ∧
      e.message =
        "'utf-8' codec can't encode character '\\ud800' in position 0: surrogates not allowed" := by
  obtain ⟨text, htext⟩ : ∃ text, text = String.singleton (Text.charOfPoint 0xD800) := ⟨_, rfl⟩
  obtain ⟨script, hscript⟩ : ∃ script : Script, script = ⟨"s.txt", [.dialogue "A" [text]]⟩ :=
    ⟨_, rfl⟩
  refine ⟨script, [], opening {} script, { speaker := "A", text },
    .surrogates ⟨0, [Text.charOfPoint 0xD800]⟩, ?_, .opening, ?_, ?_, by decide +kernel⟩
  · rw [hscript, htext]
    decide +kernel
  · rw [hscript, htext]
    decide +kernel
  · rw [DialogueFrame.fingerprint, htext,
      show Fingerprint.fault? _ = some (.surrogates ⟨0, [Text.charOfPoint 0xD800]⟩) by decide +kernel]

end Stage

end VisualNovel
