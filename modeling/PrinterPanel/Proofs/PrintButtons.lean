import PrinterPanel.Proofs.Replay
import PrinterPanel.Panel.Picture

/-!
# The controls of the print screen

The controls are three buttons or, when the print is finished, a button to confirm. They are drawn
all together, and two buttons or one are drawn again when the cursor moves or the print is paused.
Either way the same marks are left.
-/

namespace PrinterPanel.Display

namespace Canvas

variable {c : Canvas} {shown : Drawing} {m : Call}

/-- The part of the panel with the controls of the print screen. -/
def controlArea (c : Canvas) : Rect := ⟨0, 186, c.width - 1, 259⟩

/-- The area of a print button. -/
def buttonArea (index : Nat) : Rect :=
  ⟨(printButtonEnds index).1, 191, (printButtonEnds index).2, 251⟩

/-- The marks of a print button. -/
def buttonMarks (c : Canvas) (index : Nat) (selected paused : Bool) : Drawing :=
  [pictogram (printButtonPictures index selected paused).1 (printButtonEnds index).1 191,
    c.caption (printButtonPictures index selected paused).2 (printButtonEnds index).1 225] ++
  if selected then [.outline .white (buttonArea index)] else []

/-- A button is drawn by clearing its area and making its marks. -/
theorem printButton_eq (c : Canvas) (index : Nat) (selected paused : Bool) :
    c.printButton index selected paused =
      .fill .black (buttonArea index) :: c.buttonMarks index selected paused := rfl

/-- Each mark of a button has its corner at the left end of the button, in one of two lines. -/
theorem corner_of_mem_buttonMarks {index : Nat} {selected paused : Bool}
    (h : m ∈ c.buttonMarks index selected paused) :
    ∃ y, m.corner = some ((printButtonEnds index).1, y) ∧ (y = 191 ∨ y = 225) := by
  simp only [buttonMarks, List.mem_append, List.mem_cons, List.not_mem_nil, or_false] at h
  obtain (rfl | rfl) | h := h
  · exact ⟨191, rfl, .inl rfl⟩
  · exact ⟨225, rfl, .inr rfl⟩
  · split at h
    · rw [List.mem_singleton] at h
      exact ⟨191, by rw [h]; rfl, .inl rfl⟩
    · contradiction

/-- The areas of the three buttons are apart. -/
theorem left_in_buttonArea : ∀ i < 3, ∀ j < 3,
    ((buttonArea j).x0 ≤ (printButtonEnds i).1 ∧ (printButtonEnds i).1 ≤ (buttonArea j).x1 ↔
      i = j) := by
  decide

/-- The marks of a button lie in its own area, and in that of no other button. -/
theorem liesIn_buttonArea {i j : Nat} (hi : i < 3) (hj : j < 3) {selected paused : Bool}
    (h : m ∈ c.buttonMarks i selected paused) : m.LiesIn (buttonArea j) ↔ i = j := by
  obtain ⟨y, hcorner, hy⟩ := corner_of_mem_buttonMarks h
  have hrows : (buttonArea j).y0 ≤ y ∧ y ≤ (buttonArea j).y1 := by
    simp only [buttonArea]
    omega
  rw [Call.liesIn_iff hcorner, Rect.Contains, ← left_in_buttonArea i hi j hj]
  exact ⟨fun hin => ⟨hin.1, hin.2.1⟩, fun hin => ⟨hin.1, hin.2, hrows⟩⟩

/-- A button takes the place of what was in its area. -/
theorem mem_replay_printButton {index : Nat} {selected paused : Bool} :
    m ∈ replay shown (c.printButton index selected paused) ↔
      m ∈ shown ∧ ¬ m.LiesIn (buttonArea index) ∨ m ∈ c.buttonMarks index selected paused := by
  have hmarks : ∀ mark ∈ c.buttonMarks index selected paused, mark.corner.isSome := by
    intro mark hmark
    obtain ⟨_, hcorner, -⟩ := corner_of_mem_buttonMarks hmark
    simp [hcorner]
  rw [printButton_eq, replay_cons, replay_marks hmarks, List.mem_append, mem_paint_fill]

/-- The three buttons, each selected or not, and with or without a paused print. -/
def buttons (c : Canvas) (look : Nat → Bool × Bool) : Drawing :=
  (List.range 3).flatMap fun i => c.printButton i (look i).1 (look i).2

/-- A mark in an area is made by the three buttons if it is one of a button's marks. -/
theorem mem_buttons {look : Nat → Bool × Bool} {area : Rect} (hm : m.LiesIn area) :
    m ∈ c.buttons look ↔ ∃ i < 3, m ∈ c.buttonMarks i (look i).1 (look i).2 := by
  have hmark (color : Color) (r : Rect) : m ≠ .fill color r := by
    rintro rfl
    obtain ⟨_, _, hcorner, _⟩ := hm
    contradiction
  simp [buttons, printButton_eq, hmark]

/-- Drawing one button changes its look. -/
theorem alike_printButton {look : Nat → Bool × Bool}
    (h : Alike c.controlArea shown (c.buttons look)) {j : Nat} (hj : j < 3)
    (selected paused : Bool) :
    Alike c.controlArea (replay shown (c.printButton j selected paused))
      (c.buttons fun i => if i = j then (selected, paused) else look i) := by
  intro m hm
  rw [mem_replay_printButton, h m hm, mem_buttons hm, mem_buttons hm]
  constructor
  · rintro (⟨⟨i, hi, hmark⟩, hout⟩ | hmark)
    · have hother : i ≠ j := fun hij => hout ((liesIn_buttonArea hi hj hmark).mpr hij)
      exact ⟨i, hi, by rwa [if_neg hother]⟩
    · exact ⟨j, hj, by rwa [if_pos rfl]⟩
  · rintro ⟨i, hi, hmark⟩
    by_cases hij : i = j
    · rw [if_pos hij, hij] at hmark
      exact .inr hmark
    · rw [if_neg hij] at hmark
      exact .inl ⟨⟨i, hi, hmark⟩, fun hin => hij ((liesIn_buttonArea hi hj hmark).mp hin)⟩

/-- Drawn where nothing was, the buttons leave what they are made of. -/
theorem alike_replay_buttons {look : Nat → Bool × Bool}
    (h : ∀ m ∈ shown, ¬ m.LiesIn c.controlArea) :
    Alike c.controlArea (replay shown (c.buttons look)) (c.buttons look) := by
  intro m hm
  have hfirst : m ∉ shown := fun hmem => h m hmem hm
  have hapart {i j : Nat} (hi : i < 3) (hj : j < 3) (hij : i ≠ j) :
      m ∈ c.buttonMarks i (look i).1 (look i).2 → ¬ m.LiesIn (buttonArea j) :=
    fun hmark hin => hij ((liesIn_buttonArea hi hj hmark).mp hin)
  have h01 := hapart (i := 0) (j := 1) (by decide) (by decide) (by decide)
  have h02 := hapart (i := 0) (j := 2) (by decide) (by decide) (by decide)
  have h12 := hapart (i := 1) (j := 2) (by decide) (by decide) (by decide)
  have hthree : (∃ i < 3, m ∈ c.buttonMarks i (look i).1 (look i).2) ↔
      m ∈ c.buttonMarks 0 (look 0).1 (look 0).2 ∨ m ∈ c.buttonMarks 1 (look 1).1 (look 1).2 ∨
        m ∈ c.buttonMarks 2 (look 2).1 (look 2).2 := by
    simp [Nat.lt_succ_iff, Nat.le_succ_iff, or_and_right, exists_or, or_assoc]
  rw [mem_buttons hm, hthree]
  have hreplay : replay shown (c.buttons look) =
      replay (replay (replay shown (c.printButton 0 (look 0).1 (look 0).2))
        (c.printButton 1 (look 1).1 (look 1).2)) (c.printButton 2 (look 2).1 (look 2).2) := by
    simp [buttons, List.range_succ]
  rw [hreplay, mem_replay_printButton, mem_replay_printButton, mem_replay_printButton]
  simp only [hfirst, false_and, false_or]
  constructor
  · rintro (⟨(⟨hmark, -⟩ | hmark), -⟩ | hmark)
    · exact .inl hmark
    · exact .inr (.inl hmark)
    · exact .inr (.inr hmark)
  · rintro (hmark | hmark | hmark)
    · exact .inl ⟨.inl ⟨hmark, h01 hmark⟩, h02 hmark⟩
    · exact .inl ⟨.inr hmark, h12 hmark⟩
    · exact .inr hmark

/-- The buttons while one of them is selected. -/
def printButtons (c : Canvas) (selected : Nat) (paused : Bool) : Drawing :=
  c.buttons fun i => (i == selected, paused)

/-- The controls of the print screen. -/
def controls (c : Canvas) (selected : Nat) (paused finished : Bool) : Drawing :=
  if finished then c.printFinished else c.printButtons selected paused

/-- Selecting another button draws two of them. -/
theorem alike_turn {selected next : Nat} {paused : Bool} (hselected : selected < 3)
    (hnext : next < 3) (h : Alike c.controlArea shown (c.printButtons selected paused)) :
    Alike c.controlArea
      (replay shown (c.printButton selected false paused ++ c.printButton next true paused))
      (c.printButtons next paused) := by
  have hboth := alike_printButton (alike_printButton h hselected false paused) hnext true paused
  have hlook : (fun i => if i = next then (true, paused) else
      if i = selected then (false, paused) else (i == selected, paused)) =
      fun i => (i == next, paused) := by
    funext i
    by_cases hi : i = next
    · simp [hi]
    · by_cases hi' : i = selected
      · have hother : selected ≠ next := hi' ▸ hi
        simp [hi', hother]
      · have hother : (i == selected) = (i == next) := by
          rw [beq_eq_false_iff_ne.mpr hi, beq_eq_false_iff_ne.mpr hi']
        simp [hi, hi', hother]
  rw [replay_append, printButtons, ← hlook]
  exact hboth

/-- Only the button to pause shows whether the print is paused. -/
theorem printButton_of_ne {index : Nat} (h : index ≠ 1) (selected paused paused' : Bool) :
    c.printButton index selected paused = c.printButton index selected paused' := by
  match index with
  | 0 => cases selected <;> rfl
  | 1 => contradiction
  | _ + 2 => cases selected <;> rfl

/-- Pausing or resuming draws one button. -/
theorem alike_pause {selected : Nat} {paused : Bool}
    (h : Alike c.controlArea shown (c.printButtons selected paused)) (paused' : Bool) :
    Alike c.controlArea (replay shown (c.printButton 1 (selected == 1) paused'))
      (c.printButtons selected paused') := by
  have hone := alike_printButton h (by decide : 1 < 3) (selected == 1) paused'
  have hlook : c.printButtons selected paused' =
      c.buttons fun i => if i = 1 then (selected == 1, paused') else (i == selected, paused) := by
    simp only [printButtons, buttons]
    congr 1
    funext i
    by_cases hi : i = 1
    · rw [if_pos hi, hi, Bool.beq_comm]
    · rw [if_neg hi]
      exact printButton_of_ne hi _ _ _
  rw [hlook]
  exact hone

/-- A mark above or below the controls does not touch them. -/
theorem avoids_mark {x y : Int} (h : m.corner = some (x, y)) (hy : y < 186 ∨ 259 < y) :
    m.Avoids c.controlArea := by
  have hout : ¬ m.LiesIn c.controlArea := by
    rw [Call.liesIn_iff h]
    simp only [Rect.Contains, controlArea]
    omega
  cases m <;> first | exact hout | contradiction

/-- A filled area above or below the controls does not touch them. -/
theorem avoids_fill {color : Color} {r : Rect} (hr : r.y1 < 186 ∨ 259 < r.y0) :
    (Call.fill color r).Avoids c.controlArea := by
  intro x y hin hcontrols
  simp only [Rect.Contains, controlArea] at hin hcontrols
  omega

/-- A filled area around the controls takes all of them away. -/
theorem not_liesIn_paint_fill {color : Color} {r : Rect}
    (hr : r.x0 ≤ 0 ∧ (c.width : Int) - 1 ≤ r.x1 ∧ r.y0 ≤ 186 ∧ 259 ≤ r.y1) :
    ∀ m ∈ paint shown (.fill color r), ¬ m.LiesIn c.controlArea := by
  rintro m hm ⟨x, y, hcorner, hin⟩
  rw [mem_paint_fill, Call.liesIn_iff hcorner] at hm
  apply hm.2
  simp only [Rect.Contains, controlArea] at hin ⊢
  omega

/-- The print screen, drawn over anything, shows its buttons. -/
theorem alike_printScreen (file : String) (selected : Nat) (paused : Bool) (shown : Drawing) :
    Alike c.controlArea (replay shown (c.printScreen file selected paused))
      (c.printButtons selected paused) := by
  let upper : Drawing := [c.caption Caption.printingTitle titleHeight 1,
    c.centred menuText 40 (Text.cutString fileNameRoom file), pictogram Icon.printTime 117 77,
    pictogram Icon.remainingTime 117 138, .line .line 15 185 (c.width - 15) 185]
  have hupper : ∀ call ∈ upper, call.Avoids c.controlArea := by
    simp only [upper, List.forall_mem_cons, List.not_mem_nil, false_implies, implies_true, and_true]
    exact ⟨avoids_mark rfl (by decide), avoids_mark rfl (by decide), avoids_mark rfl (by decide),
      avoids_mark rfl (by decide), avoids_mark rfl (by decide)⟩
  let cleared : Drawing := paint (paint shown (c.band .grey 0 titleHeight))
    (c.band .black titleHeight statusTop)
  have hcleared : ∀ m ∈ cleared, ¬ m.LiesIn c.controlArea := by
    apply not_liesIn_paint_fill
    simp only [titleHeight, statusTop]
    omega
  have hnothing : ∀ m ∈ replay cleared upper, ¬ m.LiesIn c.controlArea := by
    intro m hm hin
    exact hcleared m ((alike_replay hupper cleared m hin).mp hm) hin
  have hscreen : replay shown (c.printScreen file selected paused) =
      replay (replay cleared upper) (c.printButtons selected paused) := by
    simp only [printScreen, frame, clearMain, clearTitle, clearRows, titleCaption, replay_append,
      replay_cons, replay_nil]
    rfl
  rw [hscreen]
  exact alike_replay_buttons hnothing

/-- The progress of a print is drawn beside the controls. -/
theorem avoids_progress (p : Progress) : ∀ call ∈ c.progress p, call.Avoids c.controlArea := by
  have htimes (y : Int) (seconds : Nat) (hy : y < 186) :
      ∀ call ∈ c.hoursAndMinutes y seconds, call.Avoids c.controlArea := by
    simp only [hoursAndMinutes, List.forall_mem_cons, List.not_mem_nil, false_implies,
      implies_true, and_true]
    exact ⟨avoids_mark rfl (.inl hy), avoids_mark rfl (.inl hy), avoids_mark rfl (.inl hy)⟩
  intro call hcall
  simp only [progress, List.cons_append, List.mem_cons, List.mem_append] at hcall
  obtain rfl | hcall | hcall := hcall
  · exact avoids_mark rfl (by decide)
  · exact htimes 100 p.elapsed (by decide) call hcall
  · split at hcall
    · contradiction
    · exact htimes 166 p.remaining (by decide) call hcall

/-- The status area is drawn beside the controls. -/
theorem avoids_statusArea (s : Status) : ∀ call ∈ c.statusArea s, call.Avoids c.controlArea := by
  have hheater (y : Int) (animation icon : Nat) (h : Heater) (hy : 259 < y) :
      ∀ call ∈ c.heater y animation icon h, call.Avoids c.controlArea := by
    simp only [heater, List.forall_mem_cons, List.not_mem_nil, false_implies, implies_true,
      and_true]
    refine ⟨?_, avoids_mark rfl (by omega), avoids_mark rfl (by omega), avoids_mark rfl (by omega)⟩
    split <;> exact avoids_mark rfl (.inr hy)
  have hpercentage (x y : Int) (icon : Nat) (value : Int) (hy : 259 < y) :
      ∀ call ∈ c.percentage x y icon value, call.Avoids c.controlArea := by
    simp only [percentage, List.forall_mem_cons, List.not_mem_nil, false_implies, implies_true,
      and_true]
    exact ⟨avoids_mark rfl (.inr hy), avoids_mark rfl (by omega), avoids_mark rfl (by omega)⟩
  intro call hcall
  simp only [statusArea, List.mem_append] at hcall
  obtain (((((hcall | hcall) | hcall) | hcall) | hcall) | hcall) | hcall := hcall
  · rw [clearStatus, List.mem_singleton] at hcall
    rw [hcall]
    exact avoids_fill (.inr (show (259 : Int) < statusTop by decide))
  · exact hheater _ _ _ _ (by decide) call hcall
  · exact hheater _ _ _ _ (by decide) call hcall
  · exact hpercentage _ _ _ _ (by decide) call hcall
  · exact hpercentage _ _ _ _ (by decide) call hcall
  · exact hpercentage _ _ _ _ (by decide) call hcall
  · simp only [List.mem_cons, List.not_mem_nil, or_false] at hcall
    obtain rfl | rfl := hcall
    · exact avoids_mark rfl (by decide)
    · exact avoids_mark rfl (by decide)

/-- The marks of the button to confirm. -/
def confirmMarks (c : Canvas) : Drawing :=
  [c.caption Caption.confirmButton 86 203, .outline .white ⟨86, 203, 166, 203 + buttonHeight⟩]

/-- The notice of the finished print ends with its button, on an empty area. -/
private theorem printFinished_eq :
    ∃ upper, (∀ call ∈ upper, call.Avoids c.controlArea) ∧
      c.printFinished =
        upper ++ .fill .black ⟨0, 185, c.width - 1, statusTop⟩ :: c.confirmMarks := by
  refine ⟨[c.band .grey 0 titleHeight, c.caption Caption.finishedTitle titleHeight 1,
    .icon animations Animation.progress 12 75], ?_, rfl⟩
  simp only [List.forall_mem_cons, List.not_mem_nil, false_implies, implies_true, and_true]
  exact ⟨avoids_fill (.inl (show titleHeight < 186 by decide)), avoids_mark rfl (by decide),
    avoids_mark rfl (by decide)⟩

/-- Among the controls, the notice of the finished print is its button. -/
theorem alike_confirmMarks : Alike c.controlArea c.printFinished c.confirmMarks := by
  obtain ⟨upper, hupper, hfinished⟩ := printFinished_eq (c := c)
  intro m hm
  have hno : m ∉ upper := fun hmem => (hupper m hmem).not_liesIn hm
  have hfill : m ≠ .fill .black ⟨0, 185, c.width - 1, statusTop⟩ := by
    rintro rfl
    obtain ⟨_, _, hcorner, _⟩ := hm
    contradiction
  rw [hfinished, List.mem_append, List.mem_cons]
  simp [hno, hfill]

/-- The notice of the finished print takes the place of everything else. -/
theorem alike_printFinished (shown : Drawing) :
    Alike c.controlArea (replay shown c.printFinished) c.printFinished := by
  refine Alike.trans ?_ alike_confirmMarks.symm
  obtain ⟨upper, -, hfinished⟩ := printFinished_eq (c := c)
  have hmarks : ∀ call ∈ c.confirmMarks, call.corner.isSome := by
    simp [confirmMarks, caption, Call.corner]
  intro m hm
  have hcleared : m ∉ paint (replay shown upper) (.fill .black ⟨0, 185, c.width - 1, statusTop⟩) :=
    fun hmem => not_liesIn_paint_fill (by simp [statusTop]) m hmem hm
  rw [hfinished, replay_append, replay_cons, replay_marks hmarks, List.mem_append]
  exact or_iff_right hcleared

/-! ### Telling controls apart -/

/-- The picture of the selected button to tune is shown only on that button. -/
theorem tuneSelected_mem_iff (selected : Nat) (paused : Bool) :
    pictogram Icon.tuneSelected 12 191 ∈ c.printButtons selected paused ↔ selected = 0 := by
  have hin : (pictogram Icon.tuneSelected 12 191).LiesIn (buttonArea 0) := by decide
  rw [printButtons, mem_buttons hin]
  constructor
  · rintro ⟨i, hi, hmark⟩
    obtain rfl := (liesIn_buttonArea hi (by decide) hmark).mp hin
    cases hselected : 0 == selected with
    | true => exact (beq_iff_eq.mp hselected).symm
    | false =>
      simp [hselected, buttonMarks, printButtonPictures, pictogram, caption, Icon.tuneSelected,
        Icon.tune] at hmark
  · rintro rfl
    exact ⟨0, by decide, List.mem_cons_self⟩

/-- The picture to pause is shown only on its button, unless that is selected. -/
theorem pause_mem_iff (selected : Nat) (paused : Bool) :
    pictogram Icon.pause 86 191 ∈ c.printButtons selected paused ↔
      selected ≠ 1 ∧ paused = false := by
  have hin : (pictogram Icon.pause 86 191).LiesIn (buttonArea 1) := by decide
  rw [printButtons, mem_buttons hin]
  constructor
  · rintro ⟨i, hi, hmark⟩
    obtain rfl := (liesIn_buttonArea hi (by decide) hmark).mp hin
    cases hselected : 1 == selected <;> cases paused <;>
      simp [hselected, buttonMarks, printButtonPictures, pictogram, caption, Icon.pause,
        Icon.resume, Icon.pauseSelected, Icon.resumeSelected] at hmark
    exact ⟨fun h => by simp [h] at hselected, rfl⟩
  · rintro ⟨hselected, rfl⟩
    have hother : (1 == selected) = false := beq_eq_false_iff_ne.mpr (Ne.symm hselected)
    exact ⟨1, by decide, by rw [hother]; exact List.mem_cons_self⟩

/-- A control that is visible differs from that at the start of a print, where the first button is
selected: the first button, or the second on a panel that is wide enough for it. -/
def Outdated (c : Canvas) (selected : Nat) (paused finished : Bool) : Prop :=
  12 < c.width ∧ (selected ≠ 0 ∨ finished = true) ∨ 86 < c.width ∧ paused = true

/-- A mark that is visible is of a button that begins on the panel. -/
theorem left_lt_width {index : Nat} {selected paused : Bool} (hm : m.LiesIn c.controlArea)
    (hmark : m ∈ c.buttonMarks index selected paused) : (printButtonEnds index).1 < c.width := by
  obtain ⟨y, hcorner, -⟩ := corner_of_mem_buttonMarks hmark
  rw [Call.liesIn_iff hcorner] at hm
  have hright : (printButtonEnds index).1 ≤ (c.width : Int) - 1 := hm.2.1
  omega

/-- A picture on a button is visible if the panel is wide enough. -/
theorem liesIn_controlArea {x : Int} (h : m.corner = some (x, 191)) (hx : 0 ≤ x)
    (hwide : x < c.width) :
    m.LiesIn c.controlArea := by
  rw [Call.liesIn_iff h]
  simp only [Rect.Contains, controlArea]
  omega

/-- On a narrow panel there are no controls to see. -/
theorem not_mem_controls (hwidth : ¬ 12 < c.width) (hm : m.LiesIn c.controlArea)
    (selected : Nat) (paused finished : Bool) : m ∉ c.controls selected paused finished := by
  intro hmem
  cases finished with
  | false =>
    have hbutton : m ∈ c.printButtons selected paused := hmem
    obtain ⟨i, hi, hmark⟩ := (mem_buttons hm).mp hbutton
    have hleft : ∀ i < 3, 12 ≤ (printButtonEnds i).1 := by decide
    have hwide := left_lt_width hm hmark
    have hi' := hleft i hi
    omega
  | true =>
    have hconfirm : m.corner = some (86, 203) := by
      have hmark : m ∈ c.confirmMarks := (alike_confirmMarks m hm).mp hmem
      simp only [confirmMarks, List.mem_cons, List.not_mem_nil, or_false] at hmark
      obtain rfl | rfl := hmark <;> rfl
    rw [Call.liesIn_iff hconfirm] at hm
    have hright : (86 : Int) ≤ (c.width : Int) - 1 := hm.2.1
    omega

/-- Controls that look as at the start of a print are those that are not outdated. -/
theorem alike_start_iff {selected : Nat} {paused finished : Bool} :
    Alike c.controlArea (c.controls selected paused finished) (c.printButtons 0 false) ↔
      ¬ c.Outdated selected paused finished := by
  constructor
  · intro h houtdated
    have hwide : 12 < c.width := by
      obtain ⟨hwide, -⟩ | ⟨hwide, -⟩ := houtdated <;> omega
    have htune : (pictogram Icon.tuneSelected 12 191).LiesIn c.controlArea :=
      liesIn_controlArea rfl (by decide) (by omega)
    have hshown := (h _ htune).mpr ((tuneSelected_mem_iff 0 false).mpr rfl)
    cases finished with
    | true =>
      have hconfirm := (alike_confirmMarks _ htune).mp hshown
      simp [confirmMarks, pictogram, caption] at hconfirm
    | false =>
      have hselected : selected = 0 := (tuneSelected_mem_iff selected paused).mp hshown
      obtain ⟨-, hother | hfinished⟩ | ⟨hwider, hpaused⟩ := houtdated
      · exact hother hselected
      · contradiction
      · have hpause : (pictogram Icon.pause 86 191).LiesIn c.controlArea :=
          liesIn_controlArea rfl (by decide) (by omega)
        have hresumed := (h _ hpause).mpr ((pause_mem_iff 0 false).mpr ⟨by decide, rfl⟩)
        obtain ⟨-, hnot⟩ := (pause_mem_iff selected paused).mp hresumed
        rw [hpaused] at hnot
        contradiction
  · intro h m hm
    by_cases hwide : 12 < c.width
    · obtain rfl : selected = 0 :=
        Classical.not_not.mp fun hother => h (.inl ⟨hwide, .inl hother⟩)
      obtain rfl : finished = false :=
        eq_false_of_ne_true fun hfinished => h (.inl ⟨hwide, .inr hfinished⟩)
      have hpaused (hwider : 86 < c.width) : paused = false :=
        eq_false_of_ne_true fun hpaused => h (.inr ⟨hwider, hpaused⟩)
      have hsame (i : Nat) (hleft : (printButtonEnds i).1 < c.width) :
          c.buttonMarks i (i == 0) paused = c.buttonMarks i (i == 0) false := by
        by_cases hi : i = 1
        · have hwider : (86 : Int) < c.width := by rwa [hi] at hleft
          rw [hpaused (by omega)]
        · exact congrArg List.tail (printButton_of_ne hi _ _ _)
      have hcontrols : c.controls 0 paused false = c.printButtons 0 paused := rfl
      rw [hcontrols, printButtons, printButtons, mem_buttons hm, mem_buttons hm]
      constructor
      · rintro ⟨i, hi, hmark⟩
        exact ⟨i, hi, hsame i (left_lt_width hm hmark) ▸ hmark⟩
      · rintro ⟨i, hi, hmark⟩
        exact ⟨i, hi, (hsame i (left_lt_width hm hmark)).symm ▸ hmark⟩
    · exact iff_of_false (not_mem_controls hwide hm _ _ _) (not_mem_controls hwide hm 0 false false)

end Canvas

end PrinterPanel.Display
