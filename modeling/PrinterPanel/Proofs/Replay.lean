import PrinterPanel.Display.Canvas

/-!
# What display calls leave on the panel

Replaying calls gives the marks that are left: texts, numbers, pictures and outlines, each at the
corner where it begins. A filled area takes away the marks that begin in it. Two displays look alike
in an area if they have the same marks there.
-/

namespace PrinterPanel.Display

/-- A point lies in a rectangle. -/
def Rect.Contains (r : Rect) (x y : Int) : Prop := r.x0 ≤ x ∧ x ≤ r.x1 ∧ r.y0 ≤ y ∧ y ≤ r.y1

instance (r : Rect) (x y : Int) : Decidable (r.Contains x y) :=
  inferInstanceAs (Decidable (_ ∧ _ ∧ _ ∧ _))

namespace Call

/-- The corner at which a mark begins. Only marks have one. -/
def corner : Call → Option (Int × Int)
  | outline _ area => some (area.x0, area.y0)
  | line _ x y _ _ | icon _ _ x y | text _ x y _ | int _ _ x y _ | fixed _ _ _ x y _ => some (x, y)
  | fill _ _ | light _ | move _ _ _ _ => none

/-- A mark begins in an area. -/
def LiesIn (c : Call) (r : Rect) : Prop := ∃ x y, c.corner = some (x, y) ∧ r.Contains x y

/-- A mark lies where its corner does. -/
theorem liesIn_iff {c : Call} {x y : Int} (h : c.corner = some (x, y)) (r : Rect) :
    c.LiesIn r ↔ r.Contains x y := by
  constructor
  · rintro ⟨x', y', hcorner, hin⟩
    rw [h] at hcorner
    cases hcorner
    exact hin
  · intro hin
    exact ⟨x, y, h, hin⟩

instance (c : Call) (r : Rect) : Decidable (c.LiesIn r) :=
  match h : c.corner with
  | none => isFalse (by simp [LiesIn, h])
  | some (_, _) => decidable_of_iff _ (liesIn_iff h r).symm

/-- A mark that is moved down by so many pixels. -/
def lowered (dy : Int) : Call → Call
  | outline color area => outline color { area with y0 := area.y0 + dy, y1 := area.y1 + dy }
  | line color x0 y0 x1 y1 => line color x0 (y0 + dy) x1 (y1 + dy)
  | icon library i x y => icon library i x (y + dy)
  | text style x y t => text style x (y + dy) t
  | int style digits x y value => int style digits x (y + dy) value
  | fixed style intDigits decimals x y value => fixed style intDigits decimals x (y + dy) value
  | c => c

/-- A mark after the picture in an area was moved: it is lost if it leaves the area. -/
def moved (dy : Int) (area : Rect) (c : Call) : Option Call :=
  if c.LiesIn area then
    if (c.lowered dy).LiesIn area then some (c.lowered dy) else none
  else some c

end Call

/-- The marks after one more call. -/
def paint (shown : Drawing) : Call → Drawing
  | .fill _ area => shown.filter fun m => ¬ m.LiesIn area
  | .light _ => shown
  | .move .up distance _ area => shown.filterMap (Call.moved (-distance) area)
  | .move .down distance _ area => shown.filterMap (Call.moved distance area)
  | c => shown ++ [c]

/-- The marks after more calls. -/
def replay (shown calls : Drawing) : Drawing := calls.foldl paint shown

/-- Without calls the marks stay as they are. -/
@[simp] theorem replay_nil (shown : Drawing) : replay shown [] = shown := rfl

/-- The first call is replayed before the others. -/
@[simp] theorem replay_cons (shown : Drawing) (c : Call) (rest : Drawing) :
    replay shown (c :: rest) = replay (paint shown c) rest := rfl

/-- Drawings are replayed one after the other. -/
@[simp] theorem replay_append (shown first second : Drawing) :
    replay shown (first ++ second) = replay (replay shown first) second :=
  List.foldl_append

/-- A filled area takes away the marks in it and no others. -/
@[simp] theorem mem_paint_fill {shown : Drawing} {color : Color} {area : Rect} {m : Call} :
    m ∈ paint shown (.fill color area) ↔ m ∈ shown ∧ ¬ m.LiesIn area := by
  simp [paint]

/-- A mark is added to those that are there. -/
theorem paint_mark {c : Call} {x y : Int} (h : c.corner = some (x, y)) (shown : Drawing) :
    paint shown c = shown ++ [c] := by
  cases c <;> first | rfl | contradiction

/-- Marks are added to those that are there. -/
theorem replay_marks {marks : Drawing} (h : ∀ c ∈ marks, c.corner.isSome) (shown : Drawing) :
    replay shown marks = shown ++ marks := by
  induction marks generalizing shown with
  | nil => simp
  | cons c rest ih =>
    obtain ⟨⟨x, y⟩, hcorner⟩ := Option.isSome_iff_exists.mp (h c List.mem_cons_self)
    rw [replay_cons, paint_mark hcorner, ih fun c' hc' => h c' (List.mem_cons_of_mem _ hc')]
    simp

/-- The same marks in an area. -/
def Alike (area : Rect) (shown shown' : Drawing) : Prop :=
  ∀ m : Call, m.LiesIn area → (m ∈ shown ↔ m ∈ shown')

/-- A display looks like itself. -/
theorem Alike.refl (area : Rect) (shown : Drawing) : Alike area shown shown := fun _ _ => Iff.rfl

/-- Two displays look like each other. -/
theorem Alike.symm {area : Rect} {shown shown' : Drawing} (h : Alike area shown shown') :
    Alike area shown' shown := fun m hm => (h m hm).symm

/-- Displays that look alike with a third look alike. -/
theorem Alike.trans {area : Rect} {shown shown' shown'' : Drawing} (h : Alike area shown shown')
    (h' : Alike area shown' shown'') : Alike area shown shown'' :=
  fun m hm => (h m hm).trans (h' m hm)

/-- A call does not touch an area. -/
def Call.Avoids (area : Rect) : Call → Prop
  | .fill _ r => ∀ x y, r.Contains x y → ¬ area.Contains x y
  | .light _ => True
  | .move _ _ _ _ => False
  | c => ¬ c.LiesIn area

/-- A call that does not touch an area makes no mark in it. -/
theorem Call.Avoids.not_liesIn {area : Rect} {c : Call} (h : c.Avoids area) :
    ¬ c.LiesIn area := by
  cases c <;> first | exact h | simp [LiesIn, corner]

/-- Calls that do not touch an area leave its marks. -/
theorem alike_paint {area : Rect} {c : Call} (h : c.Avoids area) (shown : Drawing) :
    Alike area (paint shown c) shown := by
  intro m hm
  cases c with
  | fill color r =>
    obtain ⟨x, y, hcorner, hin⟩ := hm
    have hkept : ¬ m.LiesIn r := by
      rw [Call.liesIn_iff hcorner]
      exact fun hr => h x y hr hin
    simp [hkept]
  | light level => rfl
  | move direction distance background r => exact h.elim
  | outline | line | icon | text | int | fixed =>
    rw [paint_mark rfl, List.mem_append, List.mem_singleton]
    apply or_iff_left
    rintro rfl
    exact h hm

/-- Calls that do not touch an area leave its look. -/
theorem alike_replay {area : Rect} {calls : Drawing} (h : ∀ c ∈ calls, c.Avoids area)
    (shown : Drawing) : Alike area (replay shown calls) shown := by
  induction calls generalizing shown with
  | nil => exact Alike.refl area shown
  | cons c rest ih =>
    have hrest := ih (fun c' hc' => h c' (List.mem_cons_of_mem _ hc')) (paint shown c)
    exact hrest.trans (alike_paint (h c List.mem_cons_self) shown)

end PrinterPanel.Display
