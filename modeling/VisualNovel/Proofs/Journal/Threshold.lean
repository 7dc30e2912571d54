import Mathlib.Data.List.Basic
import Mathlib.Data.List.Induction
import VisualNovel.Journal.Logger

/-!
# The last setting decides

The thresholds of a journal are set by calls that name a default or modules, by variables of the
environment and by calls that silence everything. After any calls the threshold of a module is the level
that was said last for its key since everything was silenced, or the default that was said last. All
loggers of modules with the same key have the same threshold, whenever they were made.
-/
namespace VisualNovel.Journal

open VisualNovel.Text

variable {α : Type} {p : α → Prop} {l : List α} {a b : α}

/-- An element of a list that has a property, with none behind it that has it. -/
def LastOf (p : α → Prop) (l : List α) (a : α) : Prop :=
  ∃ before after, l = before ++ a :: after ∧ p a ∧ ∀ b ∈ after, ¬p b

theorem not_lastOf_nil : ¬LastOf p [] a := by
  rintro ⟨before, after, h, -⟩
  simp at h

theorem lastOf_concat : LastOf p (l ++ [b]) a ↔ p b ∧ a = b ∨ ¬p b ∧ LastOf p l a := by
  constructor
  · rintro ⟨before, after, hl, ha, hafter⟩
    obtain rfl | ⟨rest, c, rfl⟩ := List.eq_nil_or_concat' after
    · obtain ⟨-, rfl⟩ := List.append_inj' hl rfl |>.imp id List.singleton_inj.1
      exact Or.inl ⟨ha, rfl⟩
    · rw [← List.cons_append, ← List.append_assoc] at hl
      obtain ⟨rfl, hb⟩ := List.append_inj' hl rfl
      obtain rfl := List.singleton_inj.1 hb
      refine Or.inr ⟨hafter b (by simp), before, rest, rfl, ha, fun c hc => hafter c (by simp [hc])⟩
  · rintro (⟨hb, rfl⟩ | ⟨hb, before, after, rfl, ha, hafter⟩)
    · exact ⟨l, [], rfl, hb, by simp⟩
    · refine ⟨before, after ++ [b], by simp, ha, fun c hc => ?_⟩
      obtain hc | rfl := List.mem_append.1 hc |>.imp id List.mem_singleton.1
      · exact hafter c hc
      · exact hb

/-- What a call says about thresholds. -/
inductive Saying where
  /-- The default is a level. -/
  | byDefault (level : Level)
  /-- The threshold of a key is a level. -/
  | ofKey (key : String) (level : Level)
  /-- Nothing is to be written, and all that was said of keys is forgotten. -/
  | silence
deriving DecidableEq, Repr

/-- The part of the name of a variable behind the stem. -/
def stemless? (name : String) : Option String :=
  if Thresholds.variableStem.isPrefixOf name.toList then
    some (String.ofList (name.toList.drop Thresholds.variableStem.length))
  else none

/-- What a variable says: the part of its name behind the stem is in lower case the word for the default
or the key of a module. -/
def sayingOf? (name value : String) : Option Saying :=
  (stemless? name).bind fun part =>
    if lower part = "level" then some (.byDefault (.ofText value))
    else if lower part = "" then none
    else some (.ofKey (lower part) (.ofText value))

/-- What can be called. -/
inductive Call where
  | configure (level : String) (modules : List (String × String))
  | environment (vs : List (String × String))
  | disable
  /-- Asks for the logger of a module. -/
  | logger (module : String)

def Call.sayings : Call → List Saying
  | configure level modules =>
    .byDefault (.ofText level) :: modules.map fun m => .ofKey (moduleKey m.1) (.ofText m.2)
  | environment vs => vs.filterMap fun v => sayingOf? v.1 v.2
  | disable => [.silence]
  | logger _ => []

def said (calls : List Call) : List Saying :=
  calls.flatMap Call.sayings

/-- A saying that decides the threshold of a key as long as no other one follows. -/
def Concerns (key : String) (s : Saying) : Prop :=
  s = .silence ∨ ∃ level, s = .ofKey key level

/-- A saying that decides the default as long as no other one follows. -/
def IsGeneral (s : Saying) : Prop :=
  s = .silence ∨ ∃ level, s = .byDefault level

/-- The default that was said last. Silence says that nothing reaches it, and before anything is said
warnings do. -/
inductive Default (sayings : List Saying) : Level → Prop where
  | said {level : Level} (last : LastOf IsGeneral sayings (.byDefault level)) : Default sayings level
  | silenced (last : LastOf IsGeneral sayings .silence) : Default sayings .off
  | initial (none : ∀ s ∈ sayings, ¬IsGeneral s) : Default sayings .warning

/-- The level that sayings make the threshold of a key: the one that was said last for the key since
everything was silenced, or the default. -/
inductive Governs (sayings : List Saying) (key : String) : Level → Prop where
  | own {level : Level} (last : LastOf (Concerns key) sayings (.ofKey key level)) :
      Governs sayings key level
  | general {level : Level}
      (none : ∀ level, ¬LastOf (Concerns key) sayings (.ofKey key level))
      (default : Default sayings level) : Governs sayings key level

/-! ## One saying after the other -/

def Thresholds.hear (t : Thresholds) : Saying → Thresholds
  | .byDefault level => { t with default := level }
  | .ofKey key level => t.setKey key level
  | .silence => t.silence

theorem configure_eq (t : Thresholds) (level : String) (modules : List (String × String)) :
    t.configure level modules = (Call.configure level modules).sayings.foldl Thresholds.hear t := by
  rw [Thresholds.configure, Call.sayings, List.foldl_cons, List.foldl_map]
  rfl

theorem applyVariable_eq (t : Thresholds) (name value : String) :
    t.applyVariable name value = (sayingOf? name value).elim t t.hear := by
  simp only [Thresholds.applyVariable, sayingOf?, stemless?]
  split
  · simp only [Option.bind_some]
    split
    · rfl
    · split <;> rfl
  · rfl

theorem applyEnvironment_eq (t : Thresholds) (vs : List (String × String)) :
    t.applyEnvironment vs = (Call.environment vs).sayings.foldl Thresholds.hear t := by
  rw [Thresholds.applyEnvironment, Call.sayings]
  induction vs generalizing t with
  | nil => rfl
  | cons v vs ih =>
    rw [List.foldl_cons, ih, applyVariable_eq, List.filterMap_cons]
    cases sayingOf? v.1 v.2 <;> rfl

variable {sayings : List Saying} {key : String} {level : Level}

theorem lookup_hear_eq (t : Thresholds) (s : Saying) (key : String) :
    (t.hear s).modules.lookup key =
      match s with
      | .byDefault _ => t.modules.lookup key
      | .ofKey other level => if key = other then some level else t.modules.lookup key
      | .silence => none := by
  cases s with
  | byDefault level => rfl
  | ofKey other level =>
    by_cases h : key = other
    · simp [Thresholds.hear, Thresholds.setKey, h]
    · have hb : (key == other) = false := by simpa using h
      simp [Thresholds.hear, Thresholds.setKey, List.lookup_cons, hb, h,
        Keyed.lookup_filter_ne other key t.modules h]
  | silence => rfl

theorem lookup_foldl_eq_some_iff : ((sayings.foldl Thresholds.hear {}).modules.lookup key = some level) ↔
    LastOf (Concerns key) sayings (.ofKey key level) := by
  induction sayings using List.reverseRecOn with
  | nil => simp [not_lastOf_nil]
  | append_singleton sayings s ih =>
    rw [List.foldl_append, List.foldl_cons, List.foldl_nil, lookup_hear_eq, lastOf_concat, ← ih]
    cases s with
    | byDefault other => simp [Concerns]
    | ofKey other l =>
      by_cases h : key = other
      · subst h
        simp [Concerns, eq_comm]
      · have h' : other ≠ key := Ne.symm h
        simp [Concerns, h, h']
    | silence => simp [Concerns]

theorem default_iff : Default sayings level ↔ LastOf IsGeneral sayings (.byDefault level) ∨
    level = .off ∧ LastOf IsGeneral sayings .silence ∨
    level = .warning ∧ ∀ s ∈ sayings, ¬IsGeneral s := by
  constructor
  · rintro (last | last | none)
    · exact Or.inl last
    · exact Or.inr (Or.inl ⟨rfl, last⟩)
    · exact Or.inr (Or.inr ⟨rfl, none⟩)
  · rintro (last | ⟨rfl, last⟩ | ⟨rfl, none⟩)
    · exact .said last
    · exact .silenced last
    · exact .initial none

theorem default_foldl_eq_iff : (sayings.foldl Thresholds.hear {}).default = level ↔
    Default sayings level := by
  induction sayings using List.reverseRecOn with
  | nil => simp [default_iff, not_lastOf_nil, eq_comm]
  | append_singleton sayings s ih =>
    rw [List.foldl_append, List.foldl_cons, List.foldl_nil, default_iff, lastOf_concat, lastOf_concat]
    cases s with
    | byDefault other => simp [Thresholds.hear, IsGeneral, or_imp, forall_and, eq_comm]
    | ofKey other l =>
      rw [Thresholds.hear, Thresholds.setKey, ih, default_iff]
      simp [IsGeneral, or_imp, forall_and]
    | silence => simp [Thresholds.hear, Thresholds.silence, IsGeneral, or_imp, forall_and, eq_comm]

theorem governs_iff : Governs sayings key level ↔
    (sayings.foldl Thresholds.hear {}).ofKey key = level := by
  rw [Thresholds.ofKey]
  cases own : (sayings.foldl Thresholds.hear {}).modules.lookup key with
  | some l =>
    have last := lookup_foldl_eq_some_iff.1 own
    constructor
    · rintro (other | ⟨none, -⟩)
      · exact Option.some.inj (own.symm.trans (lookup_foldl_eq_some_iff.2 other))
      · exact absurd last (none l)
    · rintro rfl
      exact .own last
  | none =>
    have none : ∀ l, ¬LastOf (Concerns key) sayings (.ofKey key l) := fun l last => by
      simp [lookup_foldl_eq_some_iff.2 last] at own
    constructor
    · rintro (last | ⟨-, default⟩)
      · exact absurd last (none level)
      · exact default_foldl_eq_iff.2 default
    · exact fun h => .general none (default_foldl_eq_iff.1 h)

/-! ## One call after the other -/

/-- The thresholds and the loggers that have been made. -/
structure Setup where
  thresholds : Thresholds := {}
  loggers : List Logger := []

def Setup.step (s : Setup) : Call → Setup
  | .configure level modules => { s with thresholds := s.thresholds.configure level modules }
  | .environment vs => { s with thresholds := s.thresholds.applyEnvironment vs }
  | .disable => { s with thresholds := s.thresholds.silence }
  | .logger module => { s with loggers := s.loggers ++ [.named module] }

def after (calls : List Call) : Setup :=
  calls.foldl Setup.step {}

variable {calls : List Call} {g other : Logger}

theorem thresholds_step (s : Setup) (c : Call) :
    (s.step c).thresholds = c.sayings.foldl Thresholds.hear s.thresholds := by
  cases c with
  | configure level modules => exact configure_eq s.thresholds level modules
  | environment vs => exact applyEnvironment_eq s.thresholds vs
  | disable => rfl
  | logger module => rfl

theorem thresholds_after (calls : List Call) :
    (after calls).thresholds = (said calls).foldl Thresholds.hear {} := by
  induction calls using List.reverseRecOn with
  | nil => rfl
  | append_singleton calls c ih =>
    rw [after, List.foldl_append, List.foldl_cons, List.foldl_nil, thresholds_step]
    rw [after] at ih
    rw [ih, said, said, List.flatMap_append, List.foldl_append, List.flatMap_singleton]

theorem mem_loggers_step {s : Setup} {c : Call} (h : g ∈ (s.step c).loggers) :
    g ∈ s.loggers ∨ ∃ module, g = .named module := by
  cases c with
  | configure level modules => exact Or.inl h
  | environment vs => exact Or.inl h
  | disable => exact Or.inl h
  | logger module => exact (List.mem_append.1 h).imp id fun h => ⟨module, List.mem_singleton.1 h⟩

theorem eq_named_of_mem (h : g ∈ (after calls).loggers) : g = .named g.module := by
  induction calls using List.reverseRecOn with
  | nil => simp [after] at h
  | append_singleton calls c ih =>
    rw [after, List.foldl_append] at h
    obtain h | ⟨module, rfl⟩ := mem_loggers_step h
    · exact ih h
    · rfl

theorem threshold_named (module : String) (calls : List Call) (level : Level) :
    Governs (said calls) (moduleKey module) level ↔
      (Logger.named module).threshold (after calls).thresholds = level := by
  rw [governs_iff, ← thresholds_after]
  rfl

/-- After any calls a logger, whenever it was made, writes a message whose level is at least the
threshold that governs the key of its module, and nothing else. There is one such threshold, and it is
that of all loggers of modules with the same key. -/
theorem log_after (room : Nat) (made : g ∈ (after calls).loggers) (level : Level)
    (template : String) (args : List Argument) (written : List String) :
    ∃ threshold, (∀ l, Governs (said calls) (moduleKey g.module) l ↔ l = threshold) ∧
      g.log room ⟨(after calls).thresholds, written⟩ level template args =
        (if threshold.rank ≤ level.rank then
          (message room template args).map fun text =>
            ⟨(after calls).thresholds, written ++ [recordText g.module level text]⟩
        else .ok ⟨(after calls).thresholds, written⟩) ∧
      ∀ other ∈ (after calls).loggers, moduleKey other.module = moduleKey g.module →
        other.threshold (after calls).thresholds = threshold := by
  refine ⟨g.threshold (after calls).thresholds, fun l => ?_, ?_, fun other hother same => ?_⟩
  · rw [threshold_named, ← eq_named_of_mem made, eq_comm]
  · simp only [Logger.log, Logger.enabled, decide_eq_true_eq]
    rfl
  · rw [eq_named_of_mem made, eq_named_of_mem hother, Logger.named, Logger.named, same]
    rfl

/-- Two loggers of one key, made before and after the settings. -/
theorem log_after_settings :
    let calls : List Call := [.logger "Render.Cache", .disable,
      .configure "ERROR" [("render/cache", "DEBUG")], .environment [("VN_LOG_RENDER_CACHE", "info")],
      .logger "render_cache"]
    ∃ threshold, (∀ l, Governs (said calls) (moduleKey "Render.Cache") l ↔ l = threshold) ∧
      (Logger.named "Render.Cache").log 0x40000000 ⟨(after calls).thresholds, []⟩ .debug "x" [] =
        (if threshold.rank ≤ Level.debug.rank then
          (message 0x40000000 "x" []).map fun text =>
            ⟨(after calls).thresholds, [] ++ [recordText "Render.Cache" .debug text]⟩
        else .ok ⟨(after calls).thresholds, []⟩) ∧
      ∀ other ∈ (after calls).loggers, moduleKey other.module = moduleKey "Render.Cache" →
        other.threshold (after calls).thresholds = threshold :=
  log_after 0x40000000 (g := .named "Render.Cache") (by simp [after, Setup.step]) .debug "x" [] []

/-- A variable whose name ends with the stem gives no level, though its part behind the stem, in lower
case, is the key of the module that has no name; and the part that stands for the default need not be
in upper case. -/
theorem exists_variable_misnamed :
    (stemless? "VN_LOG_" = some "" ∧ lower "" ≠ "level" ∧ lower "" = moduleKey "" ∧
      ¬(Level.ofText "ERROR").rank ≤ Level.warning.rank ∧
      ∀ room, (Logger.named "").log room ⟨(after [.environment [("VN_LOG_", "ERROR")]]).thresholds, []⟩
        .warning "x" [] =
          .ok ⟨(after [.environment [("VN_LOG_", "ERROR")]]).thresholds, ["[] WARNING: x"]⟩) ∧
    "VN_LOG_Level" ≠ "VN_LOG_LEVEL" ∧
      ∀ room,
        (Logger.named "m").log room ⟨(after [.environment [("VN_LOG_Level", "ERROR")]]).thresholds, []⟩
          .warning "x" [] =
            .ok ⟨(after [.environment [("VN_LOG_Level", "ERROR")]]).thresholds, []⟩ := by
  refine ⟨⟨by decide +kernel, by decide +kernel, by decide +kernel, by decide +kernel, fun _ => ?_⟩,
    by decide +kernel, fun _ => ?_⟩
  · rfl
  · rfl

end VisualNovel.Journal
