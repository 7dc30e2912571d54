import VisualNovel.Frame.Fingerprint
import VisualNovel.Proofs.Text.Utf8

/-!
# The encoding of frames tells them apart

Every field of an encoding ends where its own bytes say. Fields with this property can be put one
after the other and a counted list of them keeps it, so two frames with the same encoding agree in
every field. The decoded picture behind the scene is the only thing that an encoding leaves out.
-/
namespace VisualNovel

open VisualNovel.Number
open VisualNovel.Text

namespace Fingerprint

variable {α : Type}

/-- The encoding of a value that is in order fixes the value and where the bytes behind it begin. -/
def Delimits (inOrder : α → Prop) (field : α → List UInt8) : Prop :=
  ∀ ⦃a b : α⦄, inOrder a → inOrder b → ∀ ⦃s t : List UInt8⦄, field a ++ s = field b ++ t →
    a = b ∧ s = t

theorem delimits_of_length {inOrder : α → Prop} {field : α → List UInt8} {n : Nat}
    (length : ∀ a, (field a).length = n)
    (inj : ∀ ⦃a b⦄, inOrder a → inOrder b → field a = field b → a = b) :
    Delimits inOrder field := by
  intro a b ha hb s t h
  obtain ⟨hf, ht⟩ := List.append_inj h (by rw [length, length])
  exact ⟨inj ha hb hf, ht⟩

theorem Delimits.cons {inOrder : α → Prop} {field : α → List UInt8} (h : Delimits inOrder field)
    (mark : UInt8) : Delimits inOrder fun a => mark :: field a := by
  intro a b ha hb s t he
  rw [List.cons_append, List.cons_append, List.cons.injEq] at he
  exact h ha hb he.2

/-- Lists of as many entries each can be told apart if the entries can. -/
theorem Delimits.flatMap {inOrder : α → Prop} {field : α → List UInt8}
    (h : Delimits inOrder field) {as bs : List α} (ha : ∀ a ∈ as, inOrder a)
    (hb : ∀ b ∈ bs, inOrder b) (length : as.length = bs.length) {s t : List UInt8}
    (he : as.flatMap field ++ s = bs.flatMap field ++ t) : as = bs ∧ s = t := by
  induction as generalizing bs with
  | nil =>
    have hbs : bs = [] := List.length_eq_zero_iff.1 length.symm
    subst hbs
    exact ⟨rfl, he⟩
  | cons a as ih =>
    cases bs with
    | nil => cases length
    | cons b bs =>
      rw [List.flatMap_cons, List.flatMap_cons, List.append_assoc, List.append_assoc] at he
      obtain ⟨rfl, hrest⟩ := h (ha a (by simp)) (hb b (by simp)) he
      obtain ⟨rfl, ht⟩ := ih (fun x hx => ha x (List.mem_cons_of_mem _ hx))
        (fun x hx => hb x (List.mem_cons_of_mem _ hx)) (Nat.succ.inj length) hrest
      exact ⟨rfl, ht⟩

theorem length_bytesOf (size n : Nat) : (bytesOf size n).length = size := by
  induction size generalizing n with
  | zero => rfl
  | succ k ih => rw [bytesOf, List.length_append, ih, List.length_singleton]

/-- Numbers below the span of so many bytes are written differently. -/
theorem bytesOf_inj {size m n : Nat} (hm : m < Nat.pow 256 size) (hn : n < Nat.pow 256 size)
    (h : bytesOf size m = bytesOf size n) : m = n := by
  induction size generalizing m n with
  | zero =>
    have hm0 : m < 1 := hm
    have hn0 : n < 1 := hn
    omega
  | succ k ih =>
    have span : Nat.pow 256 (k + 1) = Nat.pow 256 k * 256 := rfl
    rw [span] at hm hn
    rw [bytesOf, bytesOf] at h
    obtain ⟨hhigh, hlow⟩ := List.append_inj' h rfl
    have hq : m / 256 = n / 256 := ih (by omega) (by omega) hhigh
    have hr : m % 256 = n % 256 := by
      have := congrArg UInt8.toNat (List.cons.inj hlow).1
      simpa only [UInt8.toNat_ofNat'] using this
    omega

theorem delimits_bytesOf : Delimits (· < 0x10000000000000000) (bytesOf 8) :=
  delimits_of_length (length_bytesOf 8) fun a b ha hb h => @bytesOf_inj 8 a b ha hb h

theorem delimits_textField : Delimits (fun s => textEncodable s = true) textField := by
  intro a b ha hb s t h
  simp only [textEncodable, Bool.and_eq_true] at ha hb
  simp only [textField, List.cons_append, List.append_assoc, List.cons.injEq, true_and] at h
  obtain ⟨hlength, hrest⟩ := delimits_bytesOf (of_decide_eq_true ha.2) (of_decide_eq_true hb.2) h
  obtain ⟨hdata, ht⟩ := List.append_inj hrest hlength
  exact ⟨Utf8.encodeString_inj hdata, ht⟩

/-- A text that is missing is marked differently from every text, the empty one included. -/
theorem delimits_optionalText : Delimits (fun o => o.all textEncodable = true) optionalText := by
  intro a b ha hb s t h
  cases a with
  | none =>
    cases b with
    | none => exact ⟨rfl, (List.cons.inj h).2⟩
    | some v => exact absurd (List.cons.inj h).1 (by decide)
  | some u =>
    cases b with
    | none => exact absurd (List.cons.inj h).1 (by decide)
    | some v =>
      obtain ⟨rfl, ht⟩ := delimits_textField ha hb h
      exact ⟨rfl, ht⟩

theorem delimits_integerField : Delimits (fun i => fits i = true) integerField := by
  refine Delimits.cons ?_ _
  intro a b ha hb s t h
  simp only [fits, Bool.and_eq_true, decide_eq_true_eq] at ha hb
  obtain ⟨hab, ht⟩ := delimits_bytesOf (by omega) (by omega) h
  exact ⟨by omega, ht⟩

theorem delimits_scaleField : Delimits (fun _ => True) scaleField := by
  intro a b _ _ s t h
  cases a with
  | none =>
    cases b with
    | none => exact ⟨rfl, (List.cons.inj h).2⟩
    | some y => exact absurd (List.cons.inj h).1 (by decide)
  | some x =>
    cases b with
    | none => exact absurd (List.cons.inj h).1 (by decide)
    | some y =>
      obtain ⟨x⟩ := x
      obtain ⟨y⟩ := y
      obtain ⟨hbits, ht⟩ := delimits_bytesOf x.toNat_lt y.toNat_lt (List.cons.inj h).2
      rw [UInt64.toNat_inj] at hbits
      subst hbits
      exact ⟨rfl, ht⟩

theorem delimits_colorField : Delimits (fun _ => True) colorField := by
  refine Delimits.cons (delimits_of_length (n := 4) (fun _ => rfl) ?_) _
  intro a b _ _ h
  simp only [Color.channels, List.cons.injEq, and_true] at h
  obtain ⟨hr, hg, hb, ha⟩ := h
  cases a
  cases b
  simp_all

theorem delimits_spriteFields : Delimits (fun s => spriteEncodable s = true) spriteFields := by
  intro a b ha hb s t h
  simp only [spriteEncodable, Bool.and_eq_true] at ha hb
  obtain ⟨⟨⟨haname, hapath⟩, hax⟩, hay⟩ := ha
  obtain ⟨⟨⟨hbname, hbpath⟩, hbx⟩, hby⟩ := hb
  simp only [spriteFields, List.append_assoc] at h
  obtain ⟨hname, h⟩ := delimits_textField haname hbname h
  obtain ⟨hpath, h⟩ := delimits_textField hapath hbpath h
  obtain ⟨hx, h⟩ := delimits_integerField hax hbx h
  obtain ⟨hy, h⟩ := delimits_integerField hay hby h
  obtain ⟨hscale, ht⟩ := delimits_scaleField trivial trivial h
  cases a
  cases b
  simp_all

end Fingerprint

/-- The frame without the decoded picture behind the scene: what its fingerprint is taken of. -/
def DialogueFrame.bare (f : DialogueFrame) : DialogueFrame :=
  { f with backdrop := { f.backdrop with picture := none } }

theorem DialogueFrame.bare_eq_bare_iff {f g : DialogueFrame} :
    f.bare = g.bare ↔
      f.backdrop.id = g.backdrop.id ∧ f.sprites = g.sprites ∧ f.speaker = g.speaker ∧
        f.text = g.text ∧ f.textColor = g.textColor ∧ f.boxColor = g.boxColor := by
  simp [DialogueFrame.bare]

namespace Fingerprint

theorem encode_bare (f : DialogueFrame) : encode f.bare = encode f :=
  rfl

/-- An encoding can be taken apart field by field, from the first to the last. -/
theorem bare_eq_of_encode_eq {f g : DialogueFrame} (hf : encodable f = true)
    (hg : encodable g = true) (h : encode f = encode g) : f.bare = g.bare := by
  simp only [encodable, Bool.and_eq_true, List.all_eq_true] at hf hg
  obtain ⟨⟨⟨⟨hfid, hfcount⟩, hfsprites⟩, hfspeaker⟩, hftext⟩ := hf
  obtain ⟨⟨⟨⟨hgid, hgcount⟩, hgsprites⟩, hgspeaker⟩, hgtext⟩ := hg
  simp only [encode, List.append_assoc] at h
  obtain ⟨hid, h⟩ := delimits_optionalText hfid hgid h
  obtain ⟨hcount, h⟩ := delimits_integerField hfcount hgcount h
  obtain ⟨hsprites, h⟩ :=
    delimits_spriteFields.flatMap hfsprites hgsprites (Int.ofNat.inj hcount) h
  obtain ⟨hspeaker, h⟩ := delimits_textField hfspeaker hgspeaker h
  obtain ⟨htext, h⟩ := delimits_textField hftext hgtext h
  obtain ⟨htextColor, h⟩ := delimits_colorField trivial trivial h
  obtain ⟨hboxColor, -⟩ := delimits_colorField trivial trivial ((List.append_nil _).trans
    (h.trans (List.append_nil _).symm))
  exact DialogueFrame.bare_eq_bare_iff.2
    ⟨hid, hsprites, hspeaker, htext, htextColor, hboxColor⟩

/-- The encodings of two frames are the same exactly if the frames agree in every field but the
decoded picture behind the scene. A text that holds an unpaired surrogate has no encoding, and neither
has a length or a coordinate that is too large for the eight bytes of its field. -/
theorem encode_eq_encode_iff {f g : DialogueFrame} (hf : encodable f = true)
    (hg : encodable g = true) :
    encode f = encode g ↔
      f.backdrop.id = g.backdrop.id ∧ f.sprites = g.sprites ∧ f.speaker = g.speaker ∧
        f.text = g.text ∧ f.textColor = g.textColor ∧ f.boxColor = g.boxColor := by
  rw [← DialogueFrame.bare_eq_bare_iff]
  constructor
  · exact bare_eq_of_encode_eq hf hg
  · intro h
    rw [← encode_bare f, h, encode_bare]

/-- A letter that moves to the field behind it or to the next sprite changes the bytes, and so does
an empty path in the place of none. -/
theorem encode_ne_of_moved_letter :
    encode { speaker := "ab", text := "c" } ≠ encode { speaker := "a", text := "bc" } ∧
      encode { sprites := [⟨"a", "p", 0, 0, none⟩, ⟨"bc", "p", 0, 0, none⟩] } ≠
        encode { sprites := [⟨"ab", "p", 0, 0, none⟩, ⟨"c", "p", 0, 0, none⟩] } ∧
      encode { backdrop := { id := none } } ≠ encode { backdrop := { id := some "" } } := by
  refine ⟨fun h => ?_, fun h => ?_, fun h => ?_⟩
  · exact absurd ((encode_eq_encode_iff (by decide) (by decide)).1 h).2.2.1 (by decide)
  · exact absurd ((encode_eq_encode_iff (by decide) (by decide)).1 h).2.1 (by decide)
  · exact absurd ((encode_eq_encode_iff (by decide) (by decide)).1 h).1 (by decide)

end Fingerprint

end VisualNovel
