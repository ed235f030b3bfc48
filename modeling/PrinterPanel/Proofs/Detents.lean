import Mathlib.Algebra.Order.Group.Abs
import Mathlib.Algebra.Order.Ring.Int
import Mathlib.Data.Fintype.Prod
import Mathlib.Data.List.Infix
import Mathlib.Tactic.LinearCombination
import Mathlib.Tactic.Ring
import PrinterPanel.Input.Knob

/-!
# Detents of the knob

Clockwise, the phases of the knob run through a cycle of four levels in which one line changes at a
time. The knob counts these quarter turns and gives a key for every so many of them, so that the
keys and what is left in the count together make up the turn. A sample in which both lines have
changed tells no direction: there the count starts again.
-/

namespace PrinterPanel

/-- The direction as it is counted, clockwise upwards. -/
def Rotation.sign : Rotation → Int
  | cw => 1
  | ccw => -1

/-- A detent always counts in one direction. -/
theorem Rotation.sign_ne_zero (r : Rotation) : r.sign ≠ 0 := by
  cases r <;> decide

/-- The count tells the direction. -/
theorem Rotation.sign_injective : Function.Injective Rotation.sign := by
  intro r r' h
  cases r <;> cases r' <;> first | rfl | cases h

/-- The direction that the key of a detent tells. -/
def Key.rotation : Key → Option Rotation
  | down | fastDown => some .cw
  | up | fastUp => some .ccw
  | click | longClick => none

/-- Keys of clockwise detents less those of counter-clockwise ones. -/
def Key.balance (keys : List Key) : Int :=
  keys.countP (·.rotation = some .cw) - keys.countP (·.rotation = some .ccw)

/-- One more detent counts in its direction. -/
theorem Key.balance_cons {key : Key} {r : Rotation} (h : key.rotation = some r) (keys : List Key) :
    balance (key :: keys) = r.sign + balance keys := by
  cases r <;> simp [balance, h, Rotation.sign] <;> omega

/-- Keys of one direction are counted one by one. -/
theorem Key.balance_of_forall {keys : List Key} {r : Rotation}
    (h : ∀ key ∈ keys, key.rotation = some r) : balance keys = r.sign * keys.length := by
  induction keys with
  | nil => simp [balance]
  | cons key rest ih =>
    have hrest := ih fun other hmem => h other (List.mem_cons_of_mem _ hmem)
    rw [balance_cons (h key List.mem_cons_self), hrest, List.length_cons]
    push_cast
    ring

namespace Knob

/-! ### The cycle of the phases -/

/-- Where two levels are in the cycle that the phases run through clockwise. -/
def quarter : Bool × Bool → Fin 4
  | (false, false) => 0
  | (true, false) => 1
  | (true, true) => 2
  | (false, true) => 3

/-- The quarter turn from one sample to the next, clockwise upwards. -/
def turn (before after : Bool × Bool) : Int :=
  if quarter after = quarter before + 1 then 1
  else if quarter before = quarter after + 1 then -1
  else 0

/-- The quarter turns of a sequence of samples. -/
def netTurn (before : Bool × Bool) : List (Bool × Bool) → Int
  | [] => 0
  | after :: rest => turn before after + netTurn after rest

/-- At most one line is different. -/
def OneLine (before after : Bool × Bool) : Prop := before.1 = after.1 ∨ before.2 = after.2

/-- The table of transitions gives the quarter turn between two levels. -/
theorem transition_eq_turn (before after : Bool × Bool) :
    transition before after = turn before after := by
  revert before after
  decide

/-- Without a change there is no turn. -/
theorem turn_self (level : Bool × Bool) : turn level level = 0 := by
  revert level
  decide

/-- A sample turns the knob by a quarter at most. -/
theorem turn_cases (before after : Bool × Bool) :
    turn before after = 1 ∨ turn before after = -1 ∨ turn before after = 0 := by
  revert before after
  decide

/-- Samples that differ in one line are next to each other in the cycle. -/
theorem OneLine.eq_of_turn_eq_zero {before after : Bool × Bool} (h : OneLine before after)
    (hturn : turn before after = 0) : after = before := by
  revert before after
  simp only [Prod.forall, OneLine]
  decide

/-- Samples that differ in both lines are opposite each other. -/
theorem turn_of_not_oneLine {before after : Bool × Bool} (h : ¬OneLine before after) :
    turn before after = 0 := by
  revert before after
  simp only [Prod.forall, OneLine]
  decide

/-! ### One sample -/

/-- The detent that is complete with a sample. -/
def detentAt (k : Knob) (after : Bool × Bool) : Option Rotation :=
  let sum := saturate (k.transitions + transition k.phases after)
  if transition k.phases after = 0 then none
  else if k.threshold ≤ sum then some .cw
  else if sum ≤ -k.threshold then some .ccw
  else none

/-- The count after a sample with which no detent is complete. -/
def countAt (k : Knob) (after : Bool × Bool) : Int :=
  if after = k.phases then k.transitions
  else if transition k.phases after = 0 then 0
  else saturate (k.transitions + transition k.phases after)

/-- The knob with other phases and another count. -/
def recount (k : Knob) (phases : Bool × Bool) (transitions : Int) : Knob :=
  { k with phases := phases, transitions := transitions }

/-- A sample either completes a detent or changes the count. -/
theorem sample_eq (k : Knob) (a b : Bool) (now : Nat) :
    k.sample a b now =
      match k.detentAt (a, b) with
      | none => (none, k.recount (a, b) (k.countAt (a, b)))
      | some r =>
        (some ((k.recount (a, b) 0).rotate r now).1, ((k.recount (a, b) 0).rotate r now).2) := by
  have hthreshold : ({ k with phases := (a, b) } : Knob).threshold = k.threshold := rfl
  by_cases hsame : (a, b) = k.phases
  · have hstill : transition k.phases k.phases = 0 := by rw [transition_eq_turn, turn_self]
    simp [sample, detentAt, countAt, recount, hsame, hstill]
  · by_cases hboth : transition k.phases (a, b) = 0
    · simp [sample, detentAt, countAt, recount, hsame, hboth]
    · simp only [sample, detentAt, countAt, recount, hthreshold, if_neg hsame, if_neg hboth]
      split
      · rfl
      · split <;> rfl

/-- With a sample in which both lines have changed the count starts again. -/
theorem sample_of_not_oneLine {k : Knob} {a b : Bool} (hboth : ¬OneLine k.phases (a, b))
    (now : Nat) : k.sample a b now = (none, k.recount (a, b) 0) := by
  have hturn : transition k.phases (a, b) = 0 := by
    rw [transition_eq_turn, turn_of_not_oneLine hboth]
  have hnew : (a, b) ≠ k.phases := fun hsame => hboth (Or.inl (congrArg Prod.fst hsame.symm))
  rw [sample_eq]
  simp [detentAt, countAt, hturn, hnew]

/-- The count of the knob is short of a detent, and a detent is of a size that eight bits hold. -/
structure Counts (k : Knob) (steps : Nat) : Prop where
  size : k.stepsPerDetent = steps
  least : 1 ≤ steps
  most : steps ≤ 127
  short : |k.transitions| < steps

/-- A count of nothing is short of every detent. -/
theorem abs_zero_lt {steps : Nat} (hleast : 1 ≤ steps) : |(0 : Int)| < steps := by
  rw [abs_zero]
  omega

namespace Counts

variable {k : Knob} {steps : Nat}

/-- A new knob counts towards detents of the configured size. -/
theorem ofSettings {e : EncoderSettings} (hleast : 1 ≤ e.stepsPerDetent)
    (hmost : e.stepsPerDetent ≤ 127) : (Knob.ofSettings e).Counts e.stepsPerDetent where
  size := Nat.max_eq_left hleast
  least := hleast
  most := hmost
  short := abs_zero_lt hleast

/-- A detent is complete with as many steps as are configured. -/
theorem threshold_eq (h : k.Counts steps) : k.threshold = steps := by
  have hmost := h.most
  have hthreshold : k.threshold = (k.stepsPerDetent : Int).bmod 256 := rfl
  rw [hthreshold, h.size, Int.bmod]
  omega

/-- The sum stays within eight bits. -/
theorem saturate_eq (h : k.Counts steps) (after : Bool × Bool) :
    saturate (k.transitions + turn k.phases after) = k.transitions + turn k.phases after := by
  have hmost := h.most
  have hshort := abs_lt.mp h.short
  have hturn := turn_cases k.phases after
  unfold saturate
  omega

/-- A count that is short of a detent may be put in place of another one. -/
theorem recount (h : k.Counts steps) {transitions : Int} (hshort : |transitions| < steps)
    (phases : Bool × Bool) : (k.recount phases transitions).Counts steps :=
  ⟨h.size, h.least, h.most, hshort⟩

/-- A detent that is told leaves the count as it was. -/
theorem rotate (h : k.Counts steps) (r : Rotation) (now : Nat) :
    (k.rotate r now).2.Counts steps := by
  cases r <;> exact ⟨h.size, h.least, h.most, h.short⟩

/-- A detent is complete when the count has come to its size. -/
theorem of_detentAt_eq_some (h : k.Counts steps) {after : Bool × Bool} {r : Rotation}
    (hdetent : k.detentAt after = some r) :
    k.transitions + turn k.phases after = r.sign * steps := by
  have hshort := abs_lt.mp h.short
  have hturn := turn_cases k.phases after
  simp only [detentAt, transition_eq_turn, h.threshold_eq, h.saturate_eq] at hdetent
  cases r <;> grind [Rotation.sign]

/-- Without a complete detent the count is short of one, and nothing was cut off. -/
theorem of_detentAt_eq_none (h : k.Counts steps) {after : Bool × Bool}
    (hdetent : k.detentAt after = none) :
    |k.countAt after| < steps ∧
      (OneLine k.phases after → k.countAt after = k.transitions + turn k.phases after) := by
  have hleast := h.least
  have hshort := abs_lt.mp h.short
  have hstill : after = k.phases → turn k.phases after = 0 := fun hsame => by rw [hsame, turn_self]
  have hnext (hone : OneLine k.phases after) : turn k.phases after = 0 → after = k.phases :=
    hone.eq_of_turn_eq_zero
  simp only [detentAt, countAt, transition_eq_turn, h.threshold_eq, h.saturate_eq] at hdetent ⊢
  rw [abs_lt]
  grind

end Counts

/-- What a sample does to the count: it adds its quarter turn, unless both lines have changed, or it
completes a detent. -/
theorem Counts.sample {k : Knob} {steps : Nat} (h : k.Counts steps) (a b : Bool) (now : Nat) :
    let after := (k.sample a b now).2
    after.Counts steps ∧ after.phases = (a, b) ∧
      ((k.sample a b now).1 = none ∧
          (OneLine k.phases (a, b) → after.transitions = k.transitions + turn k.phases (a, b)) ∨
        ∃ key r, (k.sample a b now).1 = some key ∧ key.rotation = some r ∧ after.transitions = 0 ∧
          k.transitions + turn k.phases (a, b) = r.sign * steps) := by
  rw [sample_eq]
  cases hdetent : k.detentAt (a, b) with
  | none =>
    obtain ⟨hshort, hsum⟩ := h.of_detentAt_eq_none hdetent
    exact ⟨h.recount hshort _, rfl, Or.inl ⟨rfl, hsum⟩⟩
  | some r =>
    have hrestarted := (h.recount (abs_zero_lt h.least) (a, b)).rotate r now
    have hsum := h.of_detentAt_eq_some hdetent
    refine ⟨hrestarted, ?_, Or.inr ⟨_, r, rfl, ?_, ?_, hsum⟩⟩
    · cases r <;> rfl
    · cases r <;> simp only [Knob.rotate] <;> split <;> rfl
    · cases r <;> rfl

/-! ### Sequences of samples -/

/-- The levels of the two lines at a time. -/
structure Sample where
  /-- The level of the first line. -/
  a : Bool
  /-- The level of the second line. -/
  b : Bool
  /-- The time of the sample. -/
  now : Nat
  deriving DecidableEq, Repr

/-- The keys of a sequence of samples, and the knob after it. -/
def samples (k : Knob) : List Sample → List Key × Knob
  | [] => ([], k)
  | s :: rest =>
    let first := k.sample s.a s.b s.now
    let later := first.2.samples rest
    (first.1.toList ++ later.1, later.2)

/-- The levels of a sequence of samples. -/
def levels (taken : List Sample) : List (Bool × Bool) := taken.map fun s => (s.a, s.b)

/-- From a level on, at most one line changes with each sample. -/
def Smooth (before : Bool × Bool) (levels : List (Bool × Bool)) : Prop :=
  (before :: levels).IsChain OneLine

/-- From a level on, the knob stays where it is or turns in one direction. -/
def Turning (r : Rotation) (before : Bool × Bool) (levels : List (Bool × Bool)) : Prop :=
  (before :: levels).IsChain fun p q => q = p ∨ turn p q = r.sign

namespace Counts

variable {k : Knob} {steps : Nat}

/-- The count stays short of a detent, whatever the samples are. -/
theorem samples (h : k.Counts steps) (taken : List Sample) :
    (k.samples taken).2.Counts steps ∧
      (k.samples taken).2.phases = (levels taken).getLastD k.phases := by
  induction taken generalizing k with
  | nil => exact ⟨h, rfl⟩
  | cons s rest ih =>
    obtain ⟨hafter, hphases, -⟩ := h.sample s.a s.b s.now
    have hrest := ih hafter
    rw [hphases] at hrest
    exact ⟨hrest.1, hrest.2.trans (List.getLastD_cons ..).symm⟩

/-- The keys and what is left in the count make up the turn. -/
theorem accounting (h : k.Counts steps) (taken : List Sample)
    (hsmooth : Smooth k.phases (levels taken)) :
    steps * Key.balance (k.samples taken).1 + (k.samples taken).2.transitions =
      k.transitions + netTurn k.phases (levels taken) := by
  induction taken generalizing k with
  | nil => simp [Knob.samples, Key.balance, levels, netTurn]
  | cons s rest ih =>
    obtain ⟨hone, hsmoothRest⟩ := List.isChain_cons_cons.mp hsmooth
    obtain ⟨hafter, hphases, hstep⟩ := h.sample s.a s.b s.now
    have hrest := ih hafter (hphases ▸ hsmoothRest)
    have hturn : netTurn k.phases (levels (s :: rest)) =
        turn k.phases (s.a, s.b) + netTurn (s.a, s.b) (levels rest) := rfl
    rw [hphases] at hrest
    rw [hturn, Knob.samples]
    obtain ⟨hkey, hsum⟩ | ⟨key, r, hkey, hrotation, hrestart, hdetent⟩ := hstep
    · simp only [hkey, Option.toList_none, List.nil_append]
      rw [hrest, hsum hone, Int.add_assoc]
    · simp only [hkey, Option.toList_some, List.singleton_append, Key.balance_cons hrotation]
      rw [hrestart, Int.zero_add] at hrest
      rw [← hrest, ← Int.add_assoc, hdetent]
      ring

/-- As long as what is counted stays short of a detent there is no key. -/
theorem samples_eq_nil (h : k.Counts steps) (taken : List Sample)
    (hsmooth : Smooth k.phases (levels taken))
    (hbounce : ∀ part, part <+: levels taken → |k.transitions + netTurn k.phases part| < steps) :
    (k.samples taken).1 = [] := by
  induction taken generalizing k with
  | nil => rfl
  | cons s rest ih =>
    obtain ⟨hone, hsmoothRest⟩ := List.isChain_cons_cons.mp hsmooth
    obtain ⟨hafter, hphases, ⟨hkey, hsum⟩ | ⟨key, r, -, -, -, hdetent⟩⟩ := h.sample s.a s.b s.now
    · have hrest : ((k.sample s.a s.b s.now).2.samples rest).1 = [] := by
        apply ih hafter (hphases ▸ hsmoothRest)
        intro part hpart
        have hlonger : (s.a, s.b) :: part <+: levels (s :: rest) :=
          List.cons_prefix_cons.mpr ⟨rfl, hpart⟩
        have hshort := hbounce _ hlonger
        rwa [netTurn, ← Int.add_assoc, ← hsum hone, ← hphases] at hshort
      simp only [Knob.samples, hkey, hrest, Option.toList_none, List.append_nil]
    · have hfirst : [(s.a, s.b)] <+: levels (s :: rest) :=
        List.cons_prefix_cons.mpr ⟨rfl, List.nil_prefix⟩
      have hshort := hbounce _ hfirst
      have hwhole : |k.transitions + netTurn k.phases [(s.a, s.b)]| = steps := by
        rw [netTurn, netTurn, Int.add_zero, hdetent]
        cases r <;> simp [Rotation.sign]
      omega

/-- The last quarter turn of a detent has its direction. -/
theorem turn_of_detent (h : k.Counts steps) {after : Bool × Bool} {r : Rotation}
    (hdetent : k.transitions + turn k.phases after = r.sign * steps) :
    turn k.phases after = r.sign := by
  have hshort := abs_lt.mp h.short
  have hturn := turn_cases k.phases after
  cases r <;> simp only [Rotation.sign] at hdetent ⊢ <;> omega

/-- A knob that turns in one direction gives keys of that direction only. -/
theorem rotation_of_mem (h : k.Counts steps) {taken : List Sample} {r : Rotation}
    (hturning : Turning r k.phases (levels taken)) :
    ∀ key ∈ (k.samples taken).1, key.rotation = some r := by
  induction taken generalizing k with
  | nil => exact fun key hmem => nomatch hmem
  | cons s rest ih =>
    obtain ⟨hstill, hturningRest⟩ := List.isChain_cons_cons.mp hturning
    obtain ⟨hafter, hphases, hstep⟩ := h.sample s.a s.b s.now
    have hrest := ih hafter (hphases ▸ hturningRest)
    intro key hmem
    obtain hfirst | hmem := List.mem_append.mp hmem
    · obtain ⟨hkey, -⟩ | ⟨key', r', hkey, hrotation, -, hdetent⟩ := hstep
      · simp [hkey] at hfirst
      · have hsame : key = key' := by simpa [hkey] using hfirst
        have hlast : turn k.phases (s.a, s.b) = r'.sign := h.turn_of_detent hdetent
        have hdirection : r' = r := by
          obtain hstill | hturn := hstill
          · rw [← hstill, turn_self] at hlast
            exact absurd hlast.symm r'.sign_ne_zero
          · exact Rotation.sign_injective (hlast.symm.trans hturn)
        rw [hsame, hrotation, hdirection]
    · exact hrest key hmem

/-- A turn in one direction from a count of nothing gives a key for each detent. -/
theorem length_of_turning (h : k.Counts steps) {taken : List Sample} {r : Rotation} {n : Nat}
    (hzero : k.transitions = 0) (hsmooth : Smooth k.phases (levels taken))
    (hturning : Turning r k.phases (levels taken))
    (hturn : netTurn k.phases (levels taken) = r.sign * (n * steps)) :
    (k.samples taken).1.length = n := by
  have hbalance := Key.balance_of_forall (h.rotation_of_mem hturning)
  have haccount := h.accounting taken hsmooth
  rw [hbalance, hturn, hzero, Int.zero_add] at haccount
  have hwhole : (steps : Int) ∣ (k.samples taken).2.transitions :=
    ⟨r.sign * n - r.sign * (k.samples taken).1.length, by linear_combination haccount⟩
  have hnothing : (k.samples taken).2.transitions = 0 :=
    Int.eq_zero_of_abs_lt_dvd hwhole (h.samples taken).1.short
  have hsize : (steps : Int) ≠ 0 := by have hleast := h.least; omega
  have hsigned : r.sign * (k.samples taken).1.length = r.sign * n := by
    apply mul_left_cancel₀ hsize
    linear_combination haccount - hnothing
  exact Int.ofNat_inj.mp (mul_left_cancel₀ r.sign_ne_zero hsigned)

end Counts

/-- A knob that is turned in one direction skips no level. -/
theorem Turning.smooth {r : Rotation} {before : Bool × Bool} {levels : List (Bool × Bool)}
    (h : Turning r before levels) : Smooth before levels := by
  refine List.IsChain.imp ?_ h
  rintro p q (hstill | hturn)
  · exact Or.inl (congrArg Prod.fst hstill.symm)
  · by_contra hboth
    rw [turn_of_not_oneLine hboth] at hturn
    exact r.sign_ne_zero hturn.symm

/-- The count of the knob. The knob may be in any state that samples have led to, so what is said of
its first and its last state holds before and after every sample.

The count is short of a detent, and starts again with a sample in which both lines have changed. As
long as one line changes at a time, the keys, each worth a detent, and the count make up the turn.
So, from a count of nothing, bouncing gives no key unless it comes to a detent, and a turn in one
direction gives one key of this direction for each detent. -/
theorem samples_accounting (e : EncoderSettings) (hleast : 1 ≤ e.stepsPerDetent)
    (hmost : e.stepsPerDetent ≤ 127) (before taken : List Sample) :
    let k := ((ofSettings e).samples before).2
    let keys := (k.samples taken).1
    let last := (k.samples taken).2
    (before = [] → k.phases = (false, false) ∧ k.transitions = 0) ∧
    last.phases = (levels taken).getLastD k.phases ∧
    |last.transitions| < e.stepsPerDetent ∧
    (∀ a b now, ¬OneLine last.phases (a, b) →
      last.sample a b now = (none, { last with phases := (a, b), transitions := 0 })) ∧
    (Smooth k.phases (levels taken) →
      e.stepsPerDetent * Key.balance keys + last.transitions =
        k.transitions + netTurn k.phases (levels taken)) ∧
    (k.transitions = 0 → Smooth k.phases (levels taken) →
      (∀ part, part <+: levels taken → |netTurn k.phases part| < e.stepsPerDetent) →
      keys = []) ∧
    (k.transitions = 0 → ∀ (r : Rotation) (n : Nat), Turning r k.phases (levels taken) →
      netTurn k.phases (levels taken) = r.sign * (n * e.stepsPerDetent) →
      keys.map Key.rotation = List.replicate n (some r)) := by
  intro k keys last
  have hcounts : k.Counts e.stepsPerDetent :=
    ((Counts.ofSettings hleast hmost).samples before).1
  obtain ⟨hlast, hphases⟩ := hcounts.samples taken
  refine ⟨?_, hphases, hlast.short, ?_, hcounts.accounting taken, ?_, ?_⟩
  · rintro rfl
    exact ⟨rfl, rfl⟩
  · exact fun a b now hboth => sample_of_not_oneLine hboth now
  · intro hzero hsmooth hbounce
    apply hcounts.samples_eq_nil taken hsmooth
    intro part hpart
    rw [hzero, Int.zero_add]
    exact hbounce part hpart
  · intro hzero r n hturning hturn
    have hlength : keys.length = n :=
      hcounts.length_of_turning hzero hturning.smooth hturning hturn
    rw [List.eq_replicate_iff, List.length_map]
    exact ⟨hlength, List.forall_mem_map.mpr (hcounts.rotation_of_mem hturning)⟩

/-- A skip to the opposite level and, from there, a detent of the standard knob. -/
theorem samples_accounting_after_skip :
    let k := ((ofSettings .standard).samples [⟨true, true, 0⟩]).2
    let detent := [⟨false, true, 5⟩, ⟨false, false, 10⟩, ⟨true, false, 15⟩, ⟨true, true, 20⟩]
    (k.phases = (true, true) ∧ k.transitions = 0 ∧ Turning .cw k.phases (levels detent)) ∧
      (k.samples detent).1.map Key.rotation = [some .cw] ∧
      EncoderSettings.standard.stepsPerDetent * Key.balance (k.samples detent).1 +
        (k.samples detent).2.transitions = 4 := by
  intro k detent
  have hstate : ((ofSettings .standard).samples [⟨true, true, 0⟩]).2 = k := rfl
  have hturning : Turning .cw k.phases (levels detent) := by unfold Turning; decide
  have hturn : k.transitions + netTurn k.phases (levels detent) = 4 := by decide
  obtain ⟨-, -, -, -, haccount, -, hkeys⟩ :=
    samples_accounting .standard (by decide) (by decide) [⟨true, true, 0⟩] detent
  rw [hstate] at haccount hkeys
  exact ⟨⟨rfl, rfl, hturning⟩, hkeys rfl .cw 1 hturning rfl,
    (haccount hturning.smooth).trans hturn⟩

end Knob

end PrinterPanel
