/-
# The code on the screen

`pd_draw_qr` of `win32_main.c`: the squares that are filled for the dark modules of a code.
The module size is the largest for which the code fits into its area with a quiet zone of
four modules on each side, the code stands in the middle, and a pixel of it is dark exactly
if its module is. So whatever the size of the window, a scanner finds the code that was
encoded, or none.

Coordinates of windows are small, so the integers do not overflow.
-/

import Mathlib.Algebra.Order.Ring.Int
import PrintDrop.Desktop.Session

namespace PrintDrop.Desktop

/-- `RECT`. -/
structure Rect where
  left : ℤ
  top : ℤ
  right : ℤ
  bottom : ℤ

/-- The pixels that `FillRect` fills: its right and its lower edge are not among them. -/
def Rect.Contains (rect : Rect) (x y : ℤ) : Prop :=
  rect.left ≤ x ∧ x < rect.right ∧ rect.top ≤ y ∧ y < rect.bottom

def quietModules : ℤ := 4

/-- The modules on each side of a code, with its quiet zone. -/
def quietSize (size : ℤ) : ℤ := size + quietModules * 2

/-- Where the modules of a code stand, and how large they are. -/
structure QrLayout where
  modulePixels : ℤ
  originX : ℤ
  originY : ℤ

/-- The largest size of a module in an area, which is below one if none fits. -/
def modulePixels (size : ℤ) (area : Rect) : ℤ :=
  let horizontal := (area.right - area.left).tdiv (quietSize size)
  let vertical := (area.bottom - area.top).tdiv (quietSize size)
  if vertical < horizontal then vertical else horizontal

/-- The part of `pd_draw_qr` that precedes its loops. -/
def qrLayout (size : ℤ) (area : Rect) : Option QrLayout :=
  if size ≤ 0 then none
  else
    let pixels := modulePixels size area
    if pixels < 1 then none
    else
      let rendered := pixels * quietSize size
      some {
        modulePixels := pixels
        originX := area.left + (area.right - area.left - rendered).tdiv 2 + quietModules * pixels
        originY := area.top + (area.bottom - area.top - rendered).tdiv 2 + quietModules * pixels }

/-- The square of a module. -/
def QrLayout.module (layout : QrLayout) (x y : ℤ) : Rect where
  left := layout.originX + x * layout.modulePixels
  top := layout.originY + y * layout.modulePixels
  right := layout.originX + (x + 1) * layout.modulePixels
  bottom := layout.originY + (y + 1) * layout.modulePixels

/-- The loops of `pd_draw_qr`. -/
def QrLayout.fill (layout : QrLayout) (code : QrCode) : List Rect :=
  (List.range code.size.toNat).flatMap fun (y : ℕ) =>
    (List.range code.size.toNat).filterMap fun (x : ℕ) =>
      if code.getModule x y then some (layout.module x y) else none

/-- `pd_draw_qr`, with the squares that are filled. -/
def drawQr (code : QrCode) (area : Rect) : List Rect :=
  match qrLayout code.size area with
  | none => []
  | some layout => layout.fill code

/-- A pixel that has been filled. -/
def Filled (squares : List Rect) (x y : ℤ) : Prop := ∃ square ∈ squares, square.Contains x y

/-- Truncating division by a positive number, as far as positive quotients go. -/
private theorem le_tdiv_iff (available : ℤ) {pixels count : ℤ} (hcount : 0 < count)
    (hpixels : 0 < pixels) : pixels ≤ available.tdiv count ↔ pixels * count ≤ available := by
  rcases le_or_gt 0 available with hnonneg | hnegative
  · rw [Int.tdiv_eq_ediv_of_nonneg hnonneg, Int.le_ediv_iff_mul_le hcount]
  · have hquotient : available.tdiv count ≤ 0 := by
      have hopposite : 0 ≤ (-available).tdiv count := Int.tdiv_nonneg (by omega) hcount.le
      rw [Int.neg_tdiv] at hopposite
      omega
    have hproduct : 0 < pixels * count := Int.mul_pos hpixels hcount
    exact iff_of_false (by omega) (by omega)

/-- A module size fits if the code and its quiet zone are within the area. -/
structure Fits (size : ℤ) (area : Rect) (pixels : ℤ) : Prop where
  horizontal : pixels * quietSize size ≤ area.right - area.left
  vertical : pixels * quietSize size ≤ area.bottom - area.top

/-- The module size is the largest that fits. -/
theorem le_modulePixels_iff {size : ℤ} {area : Rect} {pixels : ℤ} (hsize : 0 < size)
    (hpixels : 0 < pixels) : pixels ≤ modulePixels size area ↔ Fits size area pixels := by
  have hcount : 0 < quietSize size := by
    unfold quietSize quietModules
    omega
  have hhorizontal := le_tdiv_iff (area.right - area.left) hcount hpixels
  have hvertical := le_tdiv_iff (area.bottom - area.top) hcount hpixels
  have hmin : pixels ≤ modulePixels size area ↔
      pixels ≤ (area.right - area.left).tdiv (quietSize size) ∧
        pixels ≤ (area.bottom - area.top).tdiv (quietSize size) := by
    unfold modulePixels
    dsimp only
    split <;> omega
  rw [hmin, hhorizontal, hvertical]
  exact ⟨fun hboth => ⟨hboth.1, hboth.2⟩, fun hfits => ⟨hfits.horizontal, hfits.vertical⟩⟩

theorem mem_fill {layout : QrLayout} {code : QrCode} {square : Rect} :
    square ∈ layout.fill code ↔ ∃ x y : ℤ, 0 ≤ x ∧ x < code.size ∧ 0 ≤ y ∧ y < code.size ∧
      code.getModule x y = true ∧ square = layout.module x y := by
  unfold QrLayout.fill
  rw [List.mem_flatMap]
  constructor
  · rintro ⟨y, hy, hsquare⟩
    obtain ⟨x, hx, hdark⟩ := List.mem_filterMap.mp hsquare
    rw [List.mem_range] at hx hy
    split at hdark
    · rename_i hmodule
      exact ⟨x, y, by omega, by omega, by omega, by omega, hmodule,
        (Option.some.inj hdark).symm⟩
    · cases hdark
  · rintro ⟨x, y, hx, hx', hy, hy', hmodule, rfl⟩
    obtain ⟨x, rfl⟩ := Int.eq_ofNat_of_zero_le hx
    obtain ⟨y, rfl⟩ := Int.eq_ofNat_of_zero_le hy
    refine ⟨y, List.mem_range.mpr (by omega), List.mem_filterMap.mpr
      ⟨x, List.mem_range.mpr (by omega), ?_⟩⟩
    exact if_pos hmodule

/-- A pixel is within the strip of a module exactly if it belongs to that module. -/
private theorem strip_iff {origin pixels position index : ℤ} (hpixels : 0 < pixels) :
    origin + index * pixels ≤ position ∧ position < origin + (index + 1) * pixels ↔
      (position - origin) / pixels = index := by
  rw [Int.ediv_eq_iff_of_pos hpixels, add_mul, one_mul]
  constructor
  · rintro ⟨hlower, hupper⟩
    exact ⟨by omega, by omega⟩
  · rintro ⟨hlower, hupper⟩
    exact ⟨by omega, by omega⟩

/-- A pixel is filled exactly if its module is one of the code, and dark. -/
theorem filled_fill_iff {layout : QrLayout} (hpixels : 0 < layout.modulePixels) (code : QrCode)
    (x y : ℤ) : Filled (layout.fill code) x y ↔
      (0 ≤ (x - layout.originX) / layout.modulePixels ∧
        (x - layout.originX) / layout.modulePixels < code.size) ∧
      (0 ≤ (y - layout.originY) / layout.modulePixels ∧
        (y - layout.originY) / layout.modulePixels < code.size) ∧
      code.getModule ((x - layout.originX) / layout.modulePixels)
        ((y - layout.originY) / layout.modulePixels) = true := by
  constructor
  · rintro ⟨square, hsquare, hleft, hright, htop, hbottom⟩
    obtain ⟨column, row, hcolumn, hcolumn', hrow, hrow', hmodule, rfl⟩ := mem_fill.mp hsquare
    have hx := (strip_iff hpixels).mp ⟨hleft, hright⟩
    have hy := (strip_iff hpixels).mp ⟨htop, hbottom⟩
    rw [hx, hy]
    exact ⟨⟨hcolumn, hcolumn'⟩, ⟨hrow, hrow'⟩, hmodule⟩
  · rintro ⟨⟨hcolumn, hcolumn'⟩, ⟨hrow, hrow'⟩, hmodule⟩
    obtain ⟨hleft, hright⟩ := (strip_iff hpixels).mpr (Eq.refl ((x - layout.originX) /
      layout.modulePixels))
    obtain ⟨htop, hbottom⟩ := (strip_iff hpixels).mpr (Eq.refl ((y - layout.originY) /
      layout.modulePixels))
    exact ⟨_, mem_fill.mpr ⟨_, _, hcolumn, hcolumn', hrow, hrow', hmodule, rfl⟩,
      hleft, hright, htop, hbottom⟩

/-- What a drawing of a code must be. -/
structure Drawn (code : QrCode) (area : Rect) (layout : QrLayout) : Prop where
  largest : ∀ pixels, Fits code.size area pixels → pixels ≤ layout.modulePixels
  visible : 0 < layout.modulePixels
  quietLeft : area.left + quietModules * layout.modulePixels ≤ layout.originX
  quietTop : area.top + quietModules * layout.modulePixels ≤ layout.originY
  quietRight : layout.originX + (code.size + quietModules) * layout.modulePixels ≤ area.right
  quietBottom : layout.originY + (code.size + quietModules) * layout.modulePixels ≤ area.bottom
  faithful : ∀ column row, 0 ≤ column → column < code.size → 0 ≤ row → row < code.size →
    ∀ x y, (layout.module column row).Contains x y →
      (Filled (drawQr code area) x y ↔ code.getModule column row = true)
  blank : ∀ x y, Filled (drawQr code area) x y →
    ∃ column row, 0 ≤ column ∧ column < code.size ∧ 0 ≤ row ∧ row < code.size ∧
      (layout.module column row).Contains x y

/-- Half of what is left over stands before the code, and at most as much behind it. -/
private theorem centred {lower upper rendered : ℤ} (hfits : rendered ≤ upper - lower) :
    lower ≤ lower + (upper - lower - rendered).tdiv 2 ∧
      lower + (upper - lower - rendered).tdiv 2 + rendered ≤ upper := by
  rw [Int.tdiv_eq_ediv_of_nonneg (by omega)]
  omega

private theorem qrLayout_eq_some {size : ℤ} {area : Rect} {layout : QrLayout}
    (hlayout : qrLayout size area = some layout) :
    0 < size ∧ 0 < modulePixels size area ∧ layout.modulePixels = modulePixels size area ∧
      layout.originX = area.left + (area.right - area.left -
        modulePixels size area * quietSize size).tdiv 2 +
          quietModules * modulePixels size area ∧
      layout.originY = area.top + (area.bottom - area.top -
        modulePixels size area * quietSize size).tdiv 2 +
          quietModules * modulePixels size area := by
  unfold qrLayout at hlayout
  split at hlayout
  · cases hlayout
  dsimp only at hlayout
  split at hlayout
  · cases hlayout
  obtain rfl := Option.some.inj hlayout
  exact ⟨by omega, by omega, rfl, rfl, rfl⟩

private theorem drawn_of_layout {code : QrCode} {area : Rect} {layout : QrLayout}
    (hlayout : qrLayout code.size area = some layout) : Drawn code area layout := by
  obtain ⟨hsize, hvisible, hpixels, hx, hy⟩ := qrLayout_eq_some hlayout
  have hfits := (le_modulePixels_iff hsize hvisible).mp le_rfl
  have hdrawn : drawQr code area = layout.fill code := by
    unfold drawQr
    rw [hlayout]
  have hpositive : 0 < layout.modulePixels := hpixels ▸ hvisible
  obtain ⟨hleft, hright⟩ := centred hfits.horizontal
  obtain ⟨htop, hbottom⟩ := centred hfits.vertical
  have hrendered : modulePixels code.size area * quietSize code.size =
      (code.size + quietModules) * modulePixels code.size area +
        quietModules * modulePixels code.size area := by
    unfold quietSize
    ring
  constructor
  case largest =>
    intro pixels hother
    rw [hpixels]
    rcases le_or_gt pixels 0 with hnone | hsome
    · omega
    · exact (le_modulePixels_iff hsize hsome).mpr hother
  case visible => exact hpositive
  case quietLeft =>
    rw [hx, hpixels]
    omega
  case quietTop =>
    rw [hy, hpixels]
    omega
  case quietRight =>
    rw [hx, hpixels]
    omega
  case quietBottom =>
    rw [hy, hpixels]
    omega
  case faithful =>
    intro column row hcolumn hcolumn' hrow hrow' x y hcontains
    obtain ⟨hxLower, hxUpper, hyLower, hyUpper⟩ := hcontains
    have hcolumnOf := (strip_iff hpositive).mp ⟨hxLower, hxUpper⟩
    have hrowOf := (strip_iff hpositive).mp ⟨hyLower, hyUpper⟩
    rw [hdrawn, filled_fill_iff hpositive, hcolumnOf, hrowOf]
    exact ⟨fun hfilled => hfilled.2.2,
      fun hmodule => ⟨⟨hcolumn, hcolumn'⟩, ⟨hrow, hrow'⟩, hmodule⟩⟩
  case blank =>
    intro x y hfilled
    rw [hdrawn] at hfilled
    obtain ⟨square, hsquare, hcontains⟩ := hfilled
    obtain ⟨column, row, hcolumn, hcolumn', hrow, hrow', -, rfl⟩ := mem_fill.mp hsquare
    exact ⟨column, row, hcolumn, hcolumn', hrow, hrow', hcontains⟩

/-- A code is drawn as large as its area allows, with its quiet zone inside it, and each of
its modules is filled exactly if it is dark. Nothing is drawn of a code that does not fit. -/
theorem drawQr_drawn (code : QrCode) (area : Rect) (hsize : 0 < code.size) :
    (Fits code.size area 1 → ∃ layout, Drawn code area layout) ∧
      (¬Fits code.size area 1 → drawQr code area = []) := by
  constructor
  · intro hfits
    have hvisible : 1 ≤ modulePixels code.size area :=
      (le_modulePixels_iff hsize (by omega)).mpr hfits
    cases hlayout : qrLayout code.size area with
    | none =>
        unfold qrLayout at hlayout
        rw [if_neg (by omega)] at hlayout
        dsimp only at hlayout
        rw [if_neg (by omega)] at hlayout
        cases hlayout
    | some layout => exact ⟨layout, drawn_of_layout hlayout⟩
  · intro hunfit
    cases hlayout : qrLayout code.size area with
    | none =>
        unfold drawQr
        rw [hlayout]
    | some layout =>
        obtain ⟨-, hvisible, -⟩ := qrLayout_eq_some hlayout
        exact absurd ((le_modulePixels_iff hsize (by omega)).mp (by omega)) hunfit

/-- The smallest code in the area that the window has for it. -/
theorem drawQr_drawn_smallest :
    ∃ layout, Drawn ⟨21, fun column row => column == row⟩ ⟨32, 92, 382, 449⟩ layout :=
  (drawQr_drawn ⟨21, fun column row => column == row⟩ ⟨32, 92, 382, 449⟩ (by decide)).1
    ⟨by decide, by decide⟩

end PrintDrop.Desktop
