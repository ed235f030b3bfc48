import PrinterPanel.Proofs.Detents
import PrinterPanel.Proofs.Question
import PrinterPanel.Proofs.SparedKnob

/-!
# Presses of the knob

A press begins where the button goes down, and lasts until it goes up or down again. Whatever else
is done meanwhile, a press gives one key at most. The first look at the clock that finds it long
enough makes it a long click; if there was none, it is a click when the button goes up. Otherwise
the button gives no keys.
-/

namespace PrinterPanel

/-- Whether a key is one of the button. -/
def Key.ofButton : Key → Bool
  | click | longClick => true
  | up | down | fastUp | fastDown => false

namespace Operation

/-- Whether the button goes down or up. -/
def isEdge : Operation → Bool
  | button .. => true
  | start | key _ | rotate .. | sample .. | poll _ | tick _ | message _ | iconFinder => false

/-- Only the button goes down or up. -/
theorem eq_button_of_isEdge {op : Operation} (h : op.isEdge = true) :
    ∃ down now, op = .button down now := by
  cases op <;> first | contradiction | exact ⟨_, _, rfl⟩

/-- The time at which an operation looks at the clock. -/
def clock? : Operation → Option Nat
  | poll now | tick now => some now
  | start | key _ | rotate .. | sample .. | button .. | message _ | iconFinder => none

/-- Whether an operation finds that a press which began at a time has been long enough. -/
def seesLong (op : Operation) (long since : Nat) : Bool := op.clock?.any (long ≤ · - since)

end Operation

namespace Knob

/-! ### One operation -/

/-- The key of the button that the knob gives for an operation. A key that comes from elsewhere is
none of the knob's. -/
def pressKey (k : Knob) (op : Operation) : Option Key := (k.decode op).1.filter Key.ofButton

variable {k : Knob} {op : Operation}

/-- A detent gives no key of the button, and leaves the press as it is. -/
theorem rotate_press (k : Knob) (r : Rotation) (now : Nat) :
    (k.rotate r now).1.ofButton = false ∧ (k.rotate r now).2.pressedAt = k.pressedAt ∧
      (k.rotate r now).2.longClickSent = k.longClickSent := by
  cases r <;> simp only [rotate] <;> split <;> simp [Key.ofButton]

/-- So does every operation that neither moves the button nor looks at the clock. -/
theorem decode_of_clock_eq_none (hedge : op.isEdge = false) (hclock : op.clock? = none) :
    k.pressKey op = none ∧ (k.decode op).2.pressedAt = k.pressedAt ∧
      (k.decode op).2.longClickSent = k.longClickSent := by
  cases op with
  | button => contradiction
  | poll | tick => contradiction
  | start | key | message | iconFinder => exact ⟨rfl, rfl, rfl⟩
  | rotate r now =>
    obtain ⟨hkey, hpress⟩ := k.rotate_press r now
    exact ⟨by simp [pressKey, decode, hkey], hpress⟩
  | sample a b now =>
    simp only [pressKey, decode, sample_eq]
    cases k.detentAt (a, b) with
    | none => exact ⟨rfl, rfl, rfl⟩
    | some r =>
      obtain ⟨hkey, hpress⟩ := (k.recount (a, b) 0).rotate_press r now
      exact ⟨by simp [hkey], hpress⟩

/-- An operation that looks at the clock asks the knob about a long press. -/
theorem decode_of_clock_eq_some {now : Nat} (hclock : op.clock? = some now) :
    k.decode op = k.poll now := by
  cases op <;> cases hclock <;> rfl

/-- While the button is held, the first look at the clock that finds it held for long gives the long
click, and nothing else gives a key. -/
theorem decode_of_held {since : Nat} (hedge : op.isEdge = false)
    (hheld : k.pressedAt = some since) :
    (k.pressKey op =
        if !k.longClickSent && op.seesLong k.longPressMs since then some .longClick else none) ∧
      (k.decode op).2.pressedAt = some since ∧
      (k.decode op).2.longClickSent = (k.longClickSent || op.seesLong k.longPressMs since) := by
  cases hclock : op.clock? with
  | none =>
    obtain ⟨hkey, hsince, hsent⟩ := k.decode_of_clock_eq_none hedge hclock
    simp [hkey, hsince, hsent, hheld, Operation.seesLong, hclock]
  | some now =>
    simp only [pressKey, decode_of_clock_eq_some hclock, poll, hheld, Operation.seesLong, hclock,
      Option.any_some]
    cases hsent : k.longClickSent with
    | true => simp [hheld, hsent]
    | false =>
      by_cases hlong : k.longPressMs ≤ now - since <;> simp [hheld, hsent, hlong, Key.ofButton]

/-- While the button is up there is no key of it. -/
theorem decode_of_up (hedge : op.isEdge = false) (hup : k.pressedAt = none) :
    k.pressKey op = none ∧ (k.decode op).2.pressedAt = none := by
  cases hclock : op.clock? with
  | none =>
    obtain ⟨hkey, hsince, -⟩ := k.decode_of_clock_eq_none hedge hclock
    exact ⟨hkey, hsince.trans hup⟩
  | some now =>
    simp [pressKey, decode_of_clock_eq_some hclock, poll, hup]

/-- No reading changes how long a long press takes. -/
theorem decode_longPressMs (k : Knob) (op : Operation) :
    (k.decode op).2.longPressMs = k.longPressMs := by
  cases op with
  | start | key | message | iconFinder => rfl
  | rotate r now => cases r <;> rfl
  | button down now => cases down <;> rfl
  | sample a b now =>
    rw [decode, sample_eq]
    cases k.detentAt (a, b) with
    | none => rfl
    | some r => cases r <;> rfl
  | poll now | tick now =>
    simp only [decode, poll]
    split
    · rfl
    · split <;> rfl

end Knob

/-! ### Runs -/

/-- An operation of a run. -/
def opAt (run : List (Operation × Answers)) (n : Nat) : Option Operation := run[n]?.map (·.1)

/-- An operation comes within a press that began, at a time, with another: the button does not go up
or down between the two. -/
structure InPress (run : List (Operation × Answers)) (i since n : Nat) : Prop where
  down : opAt run i = some (.button true since)
  later : i < n
  held : ∀ m op, i < m → m < n → opAt run m = some op → op.isEdge = false

/-- An operation finds that a press which began at a time has been long enough. -/
def SeesLong (run : List (Operation × Answers)) (long since n : Nat) : Prop :=
  ∃ op, opAt run n = some op ∧ op.seesLong long since = true

section

variable {run : List (Operation × Answers)} {i since n : Nat} {op : Operation}

/-- There is an operation at each index of a run. -/
theorem exists_opAt (hn : n < run.length) : ∃ op, opAt run n = some op :=
  ⟨run[n].1, Option.map_eq_some_iff.mpr ⟨run[n], List.getElem?_eq_getElem hn, rfl⟩⟩

/-- There is no operation behind the end of a run. -/
theorem lt_length_of_opAt (hop : opAt run n = some op) : n < run.length := by
  obtain ⟨x, hx, -⟩ := Option.map_eq_some_iff.mp hop
  exact (List.getElem?_eq_some_iff.mp hx).1

/-- Whether a long press is found is decided by the operation at the index. -/
theorem seesLong_iff {long : Nat} (hop : opAt run n = some op) :
    SeesLong run long since n ↔ op.seesLong long since = true := by
  simp [SeesLong, hop]

/-- A press begins after the button goes down. -/
theorem inPress_succ (hdown : opAt run n = some (.button true since)) :
    InPress run n since (n + 1) :=
  ⟨hdown, n.lt_succ_self, fun _ _ hafter hbefore => by omega⟩

/-- A press goes on until the button goes up or down. -/
theorem InPress.succ (h : InPress run i since n) (hop : opAt run n = some op)
    (hedge : op.isEdge = false) : InPress run i since (n + 1) := by
  refine ⟨h.down, Nat.lt_succ_of_lt h.later, fun m op' hafter hbefore hop' => ?_⟩
  obtain hearlier | rfl : m < n ∨ m = n := by omega
  · exact h.held m op' hafter hearlier hop'
  · cases hop.symm.trans hop'
    exact hedge

end

namespace Panel

/-- The knob before an operation of a run. -/
def knobBefore (p : Panel) (run : List (Operation × Answers)) (n : Nat) : Knob :=
  (p.run (run.take n)).1.knob

/-- The key of the button that an operation of a run gives. The operation begins with it
(`Operation.act_eq`). -/
def pressKey (p : Panel) (run : List (Operation × Answers)) (n : Nat) : Option Key :=
  (opAt run n).bind (p.knobBefore run n).pressKey

variable {p : Panel} {run : List (Operation × Answers)} {i since n : Nat} {op : Operation}

/-- An operation leaves the knob as its reading does. -/
theorem knobBefore_succ (hop : opAt run n = some op) :
    p.knobBefore run (n + 1) = ((p.knobBefore run n).decode op).2 := by
  obtain ⟨x, hx, rfl⟩ := Option.map_eq_some_iff.mp hop
  have htake : run.take (n + 1) = run.take n ++ [x] := by rw [List.take_add_one, hx]; rfl
  rw [knobBefore, htake, run_append]
  exact perform_knob _ x.1 x.2

/-- What a long press is does not change. -/
theorem run_longPressMs (p : Panel) (run : List (Operation × Answers)) :
    (p.run run).1.knob.longPressMs = p.knob.longPressMs := by
  induction run generalizing p with
  | nil => rfl
  | cons x rest ih => rw [run, ih, perform_knob, Knob.decode_longPressMs]

/-- Within a press the knob knows when it began and whether it was found long enough. -/
theorem knobBefore_of_inPress (h : InPress run i since n) (hn : n ≤ run.length) :
    (p.knobBefore run n).pressedAt = some since ∧
      ((p.knobBefore run n).longClickSent = true ↔
        ∃ m, i < m ∧ m < n ∧ SeesLong run p.knob.longPressMs since m) := by
  obtain ⟨hdown, hlater, hheld⟩ := h
  induction n, hlater using Nat.le_induction with
  | base =>
    rw [knobBefore_succ hdown]
    have hnone : ¬∃ m, i < m ∧ m < i + 1 ∧ SeesLong run p.knob.longPressMs since m := by
      rintro ⟨m, hafter, hbefore, -⟩
      omega
    simpa [Knob.decode, Knob.button] using hnone
  | succ n hlater ih =>
    obtain ⟨hsince, hsent⟩ := ih (by omega) fun m op hafter hbefore => hheld m op hafter (by omega)
    have hlong : (p.knobBefore run n).longPressMs = p.knob.longPressMs := p.run_longPressMs _
    obtain ⟨op, hop⟩ := exists_opAt hn
    obtain ⟨-, hsinceNext, hsentNext⟩ :=
      Knob.decode_of_held (hheld n op hlater n.lt_succ_self hop) hsince
    rw [knobBefore_succ hop, hsentNext, hlong, Bool.or_eq_true, hsent, ← seesLong_iff hop]
    refine ⟨hsinceNext, ?_⟩
    constructor
    · rintro (⟨m, hafter, hbefore, hsees⟩ | hsees)
      · exact ⟨m, hafter, by omega, hsees⟩
      · exact ⟨n, hlater, n.lt_succ_self, hsees⟩
    · rintro ⟨m, hafter, hbefore, hsees⟩
      obtain hearlier | rfl : m < n ∨ m = n := by omega
      · exact Or.inl ⟨m, hafter, hearlier, hsees⟩
      · exact Or.inr hsees

/-- A press that the knob knows of began with an operation of the run. -/
theorem exists_inPress (hup : p.knob.pressedAt = none) (hn : n ≤ run.length)
    (hsince : (p.knobBefore run n).pressedAt = some since) : ∃ i, InPress run i since n := by
  induction n with
  | zero =>
    have hstart : (p.knobBefore run 0).pressedAt = none := hup
    rw [hstart] at hsince
    contradiction
  | succ n ih =>
    obtain ⟨op, hop⟩ := exists_opAt hn
    rw [knobBefore_succ hop] at hsince
    cases hedge : op.isEdge with
    | false =>
      cases hbefore : (p.knobBefore run n).pressedAt with
      | none =>
        rw [(Knob.decode_of_up hedge hbefore).2] at hsince
        contradiction
      | some since' =>
        rw [(Knob.decode_of_held hedge hbefore).2.1] at hsince
        cases hsince
        obtain ⟨i, hpress⟩ := ih (by omega) hbefore
        exact ⟨i, hpress.succ hop hedge⟩
    | true =>
      obtain ⟨down, now, rfl⟩ := Operation.eq_button_of_isEdge hedge
      cases down with
      | true =>
        cases hsince
        exact ⟨n, inPress_succ hop⟩
      | false => contradiction

/-- The key of the button is what the knob gives for the operation at the index. -/
theorem pressKey_eq (hop : opAt run n = some op) :
    p.pressKey run n = (p.knobBefore run n).pressKey op := by
  rw [pressKey, hop, Option.bind_some]

/-- The keys of a press: a long click where it is first found long enough, and a click where the
button goes up before that. -/
theorem pressKey_of_inPress (h : InPress run i since n) :
    let sees := SeesLong run p.knob.longPressMs since
    (p.pressKey run n = some .longClick ↔ sees n ∧ ∀ m, i < m → m < n → ¬sees m) ∧
      (p.pressKey run n = some .click ↔
        (∃ now, opAt run n = some (.button false now)) ∧ ∀ m, i < m → m < n → ¬sees m) := by
  intro sees
  cases hop : opAt run n with
  | none =>
    have hkey : p.pressKey run n = none := by rw [pressKey, hop, Option.bind_none]
    have hblind : ¬sees n := fun ⟨op, hop', _⟩ => by simp [hop] at hop'
    simp [hkey, hblind]
  | some op =>
    obtain ⟨hsince, hsent⟩ := p.knobBefore_of_inPress h (lt_length_of_opAt hop).le
    have hfresh : (∀ m, i < m → m < n → ¬sees m) ↔
        (p.knobBefore run n).longClickSent = false := by
      rw [← Bool.not_eq_true, hsent]
      simp only [not_exists, not_and, sees]
    have hsees : sees n ↔ op.seesLong p.knob.longPressMs since = true := seesLong_iff hop
    have hlong : (p.knobBefore run n).longPressMs = p.knob.longPressMs := p.run_longPressMs _
    rw [hfresh, hsees, pressKey_eq hop]
    cases hedge : op.isEdge with
    | false =>
      have hother (now : Nat) : op ≠ .button false now := by rintro rfl; contradiction
      rw [(Knob.decode_of_held hedge hsince).1, hlong]
      simp [hother, and_comm]
    | true =>
      obtain ⟨down, now, rfl⟩ := Operation.eq_button_of_isEdge hedge
      have hblind : (Operation.button down now).seesLong p.knob.longPressMs since = false := rfl
      cases down with
      | true => simp [Knob.pressKey, Knob.decode, Knob.button, hblind]
      | false =>
        cases hlate : (p.knobBefore run n).longClickSent <;>
          simp [Knob.pressKey, Knob.decode, Knob.button, Key.ofButton, hblind, hsince, hlate]

/-- The button gives these two keys only. -/
theorem pressKey_cases (h : (p.pressKey run n).isSome) :
    p.pressKey run n = some .longClick ∨ p.pressKey run n = some .click := by
  cases hop : opAt run n with
  | none => simp [pressKey, hop] at h
  | some op =>
    rw [pressKey_eq hop] at h ⊢
    obtain ⟨k, hk⟩ := Option.isSome_iff_exists.mp h
    have hbutton := (Option.filter_eq_some_iff.mp hk).2
    rw [hk]
    cases k <;> simp [Key.ofButton] at hbutton ⊢

/-- Once a press has given a key it gives no other: it is over then, or was found long enough. -/
theorem le_of_pressKey {m : Nat} (hm : InPress run i since m) (hn : InPress run i since n)
    (hkeyM : (p.pressKey run m).isSome) (hkeyN : (p.pressKey run n).isSome) : n ≤ m := by
  obtain ⟨hlongM, hclickM⟩ := pressKey_of_inPress (p := p) hm
  obtain ⟨hlongN, hclickN⟩ := pressKey_of_inPress (p := p) hn
  by_contra hlater
  have hfresh : ¬SeesLong run p.knob.longPressMs since m := by
    obtain hkey | hkey := pressKey_cases hkeyN
    · exact (hlongN.mp hkey).2 m hm.later (by omega)
    · exact (hclickN.mp hkey).2 m hm.later (by omega)
  obtain hkey | hkey := pressKey_cases hkeyM
  · exact hfresh (hlongM.mp hkey).1
  · obtain ⟨⟨now, hop⟩, -⟩ := hclickM.mp hkey
    have hedge := hn.held m _ hm.later (by omega) hop
    contradiction

/-- While the button is up it gives no key. -/
theorem exists_inPress_of_pressKey (hup : p.knob.pressedAt = none)
    (hkey : (p.pressKey run n).isSome) : ∃ i since, InPress run i since n := by
  cases hop : opAt run n with
  | none => simp [pressKey, hop] at hkey
  | some op =>
    cases hsince : (p.knobBefore run n).pressedAt with
    | some since =>
      obtain ⟨i, hpress⟩ := exists_inPress hup (lt_length_of_opAt hop).le hsince
      exact ⟨i, since, hpress⟩
    | none =>
      rw [pressKey_eq hop] at hkey
      cases hedge : op.isEdge with
      | false => simp [(Knob.decode_of_up hedge hsince).1] at hkey
      | true =>
        obtain ⟨down, now, rfl⟩ := Operation.eq_button_of_isEdge hedge
        cases down <;> simp [Knob.pressKey, Knob.decode, Knob.button, hsince] at hkey

/-- A press gives one key at most. The run may be any, with times of any order; a press lasts from
where the button goes down to where it next goes up or down. It gives a long click with the first
look at the clock that finds it long enough, and a click if the button goes up and no look at the
clock has found it so. There are no other keys of the button. -/
theorem run_presses (s : Settings) (width height : Nat) (run : List (Operation × Answers)) :
    let key := (ofSettings s width height).pressKey run
    let sees := SeesLong run s.encoder.longPressMs
    (∀ i since n, InPress run i since n →
      (key n = some .longClick ↔ sees since n ∧ ∀ m, i < m → m < n → ¬sees since m) ∧
      (key n = some .click ↔
        (∃ now, opAt run n = some (.button false now)) ∧ ∀ m, i < m → m < n → ¬sees since m)) ∧
    (∀ i since m n, InPress run i since m → InPress run i since n →
      (key m).isSome → (key n).isSome → m = n) ∧
    (∀ n, (key n).isSome → ∃ i since, InPress run i since n) := by
  intro key sees
  refine ⟨fun i since n hpress => pressKey_of_inPress hpress, ?_, ?_⟩
  · intro i since m n hm hn hkeyM hkeyN
    exact le_antisymm (le_of_pressKey hn hm hkeyN hkeyM) (le_of_pressKey hm hn hkeyM hkeyN)
  · exact fun n hkey => exists_inPress_of_pressKey rfl hkey

/-- A detent within a long press, the release that ends it, and a short press after it. -/
theorem run_presses_long_then_short :
    let run := [.button true 0, .rotate .cw 100, .poll 800, .button false 900, .button true 1000,
      .button false 1100].map fun op => (op, Answers.smooth)
    let key := (ofSettings .standard 240 320).pressKey run
    key 2 = some .longClick ∧ key 3 ≠ some .click ∧ key 5 = some .click := by
  intro run key
  obtain ⟨hkeys, -⟩ := run_presses .standard 240 320 run
  have hlong : InPress run 0 0 2 := by
    refine ⟨rfl, by decide, fun m op hafter hbefore hop => ?_⟩
    obtain rfl : m = 1 := by omega
    cases hop
    rfl
  have hrelease : InPress run 0 0 3 := hlong.succ rfl rfl
  have hshort : InPress run 4 1000 5 := inPress_succ rfl
  have hsees : SeesLong run 800 0 2 := ⟨.poll 800, rfl, by decide⟩
  refine ⟨(hkeys 0 0 2 hlong).1.mpr ⟨hsees, ?_⟩, ?_,
    (hkeys 4 1000 5 hshort).2.mpr ⟨⟨1100, rfl⟩, ?_⟩⟩
  · rintro m hafter hbefore ⟨op, hop, hlooks⟩
    obtain rfl : m = 1 := by omega
    cases hop
    contradiction
  · intro hclick
    exact ((hkeys 0 0 3 hrelease).2.mp hclick).2 2 (by decide) (by decide) hsees
  · intro m hafter hbefore
    omega

end Panel

end PrinterPanel
