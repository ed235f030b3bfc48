import Mathlib.Order.Lattice
import PrinterPanel.Display.PrintScreen

/-!
# Time left of a print

The panel expects a print to go on at its pace, and shows the time that is then left. It keeps the
expected total in 32 bits before it takes away what is spent. While the total fits, the time is
right and does not grow with the progress. Of a total that does not fit the upper part is lost, so
that a print of many years may seem to be done at once, and the time jumps up when the total fits
again.
-/

namespace PrinterPanel

namespace Progress

/-- The time that the print takes in all if it goes on at its pace (s). -/
def total (p : Progress) : Nat := p.elapsed * 1000 / min p.permille 1000

/-- The time that is then left, as far as it goes into 32 bits (s). -/
def timeLeft (p : Progress) : Nat := min (p.total - p.elapsed) 0xFFFFFFFF

/-- A print without progress has no time left to show. -/
def timeLeft? (p : Progress) : Option Nat := if p.permille = 0 then Option.none else some p.timeLeft

variable {p later : Progress}

/-- The time that is shown is that of the total as far as it goes into 32 bits. -/
theorem remaining_eq (hpermille : p.permille ≠ 0) :
    p.remaining = p.total % 0x100000000 - p.elapsed := if_neg hpermille

/-- The total is not less than what is spent. -/
theorem elapsed_le_total (hpermille : p.permille ≠ 0) : p.elapsed ≤ p.total := by
  rw [total, Nat.le_div_iff_mul_le (by omega)]
  exact Nat.mul_le_mul_left _ (Nat.min_le_right _ _)

/-- The more of the print is done in the same time, the less it takes in all. -/
theorem total_le_total (helapsed : later.elapsed = p.elapsed) (hpermille : p.permille ≠ 0)
    (hle : p.permille ≤ later.permille) : later.total ≤ p.total := by
  rw [total, total, helapsed]
  exact Nat.div_le_div_left (by omega) (by omega)

/-- What is shown is the time left if the total fits, and only then. -/
theorem remaining_eq_timeLeft_iff (helapsed : p.elapsed < 0x100000000)
    (hpermille : p.permille ≠ 0) : p.remaining = p.timeLeft ↔ p.total < 0x100000000 := by
  have htotal : p.elapsed = 0 → p.total = 0 := fun h => by simp [total, h]
  rw [remaining_eq hpermille, timeLeft]
  omega

/-- If the total does not fit, more hours are left than are shown. -/
theorem hours_le_timeLeft (helapsed : p.elapsed < 0x100000000) (htotal : 0x100000000 ≤ p.total) :
    99 ≤ p.timeLeft / 3600 := by
  have hunfinished : min p.permille 1000 ≤ 999 := by
    by_contra hdone
    have hwhole : min p.permille 1000 = 1000 := by omega
    have hspent : p.total = p.elapsed := by
      rw [total, hwhole, Nat.mul_div_cancel _ (by decide)]
    omega
  have hpermille : 0 < min p.permille 1000 := by
    by_contra hnone
    have hzero : min p.permille 1000 = 0 := by omega
    simp [total, hzero] at htotal
  have hspent : p.elapsed * 1000 < (p.total + 1) * 999 := calc
    p.elapsed * 1000 < (p.total + 1) * min p.permille 1000 :=
      (Nat.div_lt_iff_lt_mul hpermille).mp p.total.lt_succ_self
    _ ≤ (p.total + 1) * 999 := Nat.mul_le_mul_left _ hunfinished
  unfold timeLeft
  omega

/-- The more of the print is done in the same time, the less is left. -/
theorem timeLeft_le_timeLeft (helapsed : later.elapsed = p.elapsed) (hpermille : p.permille ≠ 0)
    (hle : p.permille ≤ later.permille) : later.timeLeft ≤ p.timeLeft := by
  have htotal := total_le_total helapsed hpermille hle
  unfold timeLeft
  omega

end Progress

namespace Display.Canvas

/-- The progress of a print with some time left. -/
def progressWith (c : Canvas) (p : Progress) (left : Option Nat) : Drawing :=
  .icon animations (Animation.progress + p.percent) 12 75 :: c.hoursAndMinutes 100 p.elapsed ++
  match left with
  | none => []
  | some seconds => c.hoursAndMinutes 166 seconds

/-- Two times look the same if their minutes and their hours up to 99 are the same. -/
theorem hoursAndMinutes_inj (c : Canvas) (y : Int) (a b : Nat) :
    c.hoursAndMinutes y a = c.hoursAndMinutes y b ↔
      min (a / 3600) 99 = min (b / 3600) 99 ∧ a % 3600 / 60 = b % 3600 / 60 := by
  simp [hoursAndMinutes]
  omega

/-- The progress of a print is drawn with the time that is left, if there is any progress. -/
theorem progress_eq (c : Canvas) (p : Progress) :
    c.progress p = c.progressWith p (if p.permille = 0 then none else some p.remaining) := by
  unfold progress progressWith
  split <;> rfl

/-- With some progress, what is shown is the time left if the total fits, or else if it has as many
hours and the same minutes by chance. -/
theorem progress_eq_timeLeft_iff (c : Canvas) {p : Progress} (helapsed : p.elapsed < 0x100000000)
    (hpermille : p.permille ≠ 0) :
    c.progress p = c.progressWith p (some p.timeLeft) ↔
      p.total < 0x100000000 ∨
        99 ≤ p.remaining / 3600 ∧ p.remaining % 3600 / 60 = p.timeLeft % 3600 / 60 := by
  rw [progress_eq, if_neg hpermille]
  simp only [progressWith, List.append_cancel_left_eq, hoursAndMinutes_inj]
  by_cases htotal : p.total < 0x100000000
  · rw [(p.remaining_eq_timeLeft_iff helapsed hpermille).mpr htotal]
    exact iff_of_true ⟨rfl, rfl⟩ (Or.inl htotal)
  · have hmany := p.hours_le_timeLeft helapsed (by omega)
    constructor
    · rintro ⟨hhours, hminutes⟩
      exact Or.inr ⟨by omega, hminutes⟩
    · rintro (hfits | ⟨hhours, hminutes⟩)
      · contradiction
      · exact ⟨by omega, hminutes⟩

/-- What is shown as the time left, for any progress of any print. It is the hours, at most 99, and
the minutes of the time left as long as the total fits into 32 bits; otherwise, only if what is
shown has as many hours and the same minutes by chance. The time left never grows with the progress,
and neither does what the panel makes of it once the total fits. -/
theorem progress_eq_iff (c : Canvas) (p : Progress) (helapsed : p.elapsed < 0x100000000) :
    (c.progress p = c.progressWith p p.timeLeft? ↔
      p.permille = 0 ∨ p.total < 0x100000000 ∨
        99 ≤ p.remaining / 3600 ∧ p.remaining % 3600 / 60 = p.timeLeft % 3600 / 60) ∧
    (p.permille ≠ 0 →
      p.elapsed ≤ p.total ∧ (p.remaining = p.timeLeft ↔ p.total < 0x100000000)) ∧
    ∀ later : Progress, later.elapsed = p.elapsed → p.permille ≠ 0 → p.permille ≤ later.permille →
      later.timeLeft ≤ p.timeLeft ∧ (p.total < 0x100000000 → later.remaining ≤ p.remaining) := by
  refine ⟨?_, fun hpermille => ?_, fun later hsame hpermille hle => ?_⟩
  · by_cases hpermille : p.permille = 0
    · simp [progress_eq, Progress.timeLeft?, hpermille]
    · rw [Progress.timeLeft?, if_neg hpermille, progress_eq_timeLeft_iff c helapsed hpermille]
      simp [hpermille]
  · exact ⟨p.elapsed_le_total hpermille, p.remaining_eq_timeLeft_iff helapsed hpermille⟩
  · have hless := Progress.timeLeft_le_timeLeft hsame hpermille hle
    refine ⟨hless, fun htotal => ?_⟩
    have htotalLater : later.total < 0x100000000 :=
      (Progress.total_le_total hsame hpermille hle).trans_lt htotal
    rwa [(p.remaining_eq_timeLeft_iff helapsed hpermille).mpr htotal,
      (later.remaining_eq_timeLeft_iff (hsame ▸ helapsed) (by omega)).mpr htotalLater]

/-- The longest time after which the total still fits at the first permille. -/
theorem progress_eq_at_limit :
    let c := Canvas.mk 240 320 .english
    c.progress ⟨1, 4294967⟩ = c.progressWith ⟨1, 4294967⟩ (some 4290672033) ∧
      (Progress.mk 2 4294967).remaining ≤ (Progress.mk 1 4294967).remaining := by
  intro c
  obtain ⟨hshown, -, hlater⟩ := progress_eq_iff c ⟨1, 4294967⟩ (by decide)
  have hfits : (Progress.mk 1 4294967).total < 0x100000000 := by decide
  exact ⟨hshown.mpr (Or.inr (Or.inl hfits)),
    (hlater ⟨2, 4294967⟩ rfl (by decide) (by decide)).2 hfits⟩

/-- A print of fifty days at its first permille: the total is just too large for 32 bits. It is
shown as done, where more than 99 hours are left, and with the next permille the time jumps up. -/
theorem timeLeft_lost :
    let p : Progress := ⟨1, 4294968⟩
    let c := Canvas.mk 240 320 .english
    c.progress p ≠ c.progressWith p p.timeLeft? ∧
      c.progress p = c.progressWith p (some 0) ∧ p.timeLeft? = some 4290673032 ∧
      p.remaining = 0 ∧ (Progress.mk 2 4294968).remaining = 2143189032 := by
  decide

end Display.Canvas

end PrinterPanel
