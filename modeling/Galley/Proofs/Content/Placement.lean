import Mathlib.Algebra.Module.Prod
import Galley.Proofs.Content.Emission
import Galley.Proofs.Content.Saving
import Galley.Proofs.Content.Splitting
import Galley.Proofs.Geometry.Transform

/-!
This module contains the placement of shown text over the reals: each glyph begins where the one
before it ends, and what is shown without a glyph moves the next one by its displacement.
-/

namespace Galley

namespace Glyph

variable {α : Type}

def position (g : Glyph α) : α × α := (g.x, g.y)

def advance (g : Glyph α) : α × α := (g.dx, g.dy)

/-- Whether the second glyph begins where the first one ends. -/
def Joins (g h : Glyph ℝ) : Prop := h.position = g.position + g.advance

/-- Glyphs each of which joins the next one, from `start` to `stop`. -/
structure Spans (start stop : ℝ × ℝ) (glyphs : List (Glyph ℝ)) : Prop where
  first : ∀ g ∈ glyphs.head?, g.position = start
  joined : glyphs.IsChain Joins
  last : ∀ g ∈ glyphs.getLast?, g.position + g.advance = stop

theorem spans_of_steps {start step : ℝ × ℝ} {glyphs : List (Glyph ℝ)}
    (h : ∀ k (hk : k < glyphs.length),
      glyphs[k].position = start + k • step ∧ glyphs[k].advance = step)
    : Spans start (start + glyphs.length • step) glyphs where
  first g hg := by
    rw [List.head?_eq_getElem?, Option.mem_def, List.getElem?_eq_some_iff] at hg
    obtain ⟨hk, rfl⟩ := hg
    rw [(h 0 hk).1, zero_nsmul, add_zero]
  joined := by
    rw [List.isChain_iff_getElem]
    intro k hk
    obtain ⟨hposition, hadvance⟩ := h k (by omega)
    rw [Joins, (h (k + 1) hk).1, hposition, hadvance, succ_nsmul, add_assoc]
  last g hg := by
    rw [List.getLast?_eq_getElem?, Option.mem_def, List.getElem?_eq_some_iff] at hg
    obtain ⟨hk, rfl⟩ := hg
    obtain ⟨hposition, hadvance⟩ := h _ hk
    rw [hposition, hadvance, add_assoc, ← succ_nsmul, Nat.sub_add_cancel (by omega)]

end Glyph

/-- So many equal shares make up the whole. -/
theorem nsmul_share {n : Nat} (h : n ≠ 0) (whole : ℝ × ℝ) : n • (n : ℝ)⁻¹ • whole = whole := by
  rw [← Nat.cast_smul_eq_nsmul ℝ, smul_inv_smul₀ (Nat.cast_ne_zero.mpr h)]

section Shape

variable (form : Normalization) (code : UInt32) (bytes : List UInt8) (font : Font ℝ)
variable (text : TextState ℝ) (matrix : Transform ℝ) (index : Nat)

theorem map_char_shape
    : (shape form code bytes font text matrix index).glyphs.map Glyph.char
        =
      (form.apply (font.decode bytes)).toList := by
  apply List.ext_getElem
  . simp [shape]
  . intro k hk₁ hk₂
    simp [shape]

theorem length_shape
    : (shape form code bytes font text matrix index).glyphs.length
        =
      (form.apply (font.decode bytes)).toList.length := by
  rw [← map_char_shape form code bytes font text matrix index, List.length_map]

/-- The characters of a code stand apart by equal shares of its displacement on the page. -/
theorem getElem_shape {start whole : ℝ × ℝ}
    (hstart : ((text.textMatrix.concat matrix).apply 0 text.rise).vector = start)
    (hwhole : (text.textMatrix.concat matrix).image
      (displacement font code bytes (form.apply (font.decode bytes)).toList text) = whole)
    (k : Nat) (hk : k < (shape form code bytes font text matrix index).glyphs.length)
    : (shape form code bytes font text matrix index).glyphs[k].position
          =
        start +
          k • ((form.apply (font.decode bytes)).toList.length : ℝ)⁻¹ • whole ∧
      (shape form code bytes font text matrix index).glyphs[k].advance
          =
        ((form.apply (font.decode bytes)).toList.length : ℝ)⁻¹ • whole := by
  subst hstart hwhole
  constructor
  . ext
    . simp [shape, Glyph.position, Point.vector, Transform.image, div_eq_inv_mul, mul_comm]
    . simp [shape, Glyph.position, Point.vector, Transform.image, div_eq_inv_mul, mul_comm]
  . ext
    . simp [shape, Glyph.advance, Point.vector, Transform.image, div_eq_inv_mul]
    . simp [shape, Glyph.advance, Point.vector, Transform.image, div_eq_inv_mul]

theorem spans_shape {start whole : ℝ × ℝ}
    (hstart : ((text.textMatrix.concat matrix).apply 0 text.rise).vector = start)
    (hwhole : (text.textMatrix.concat matrix).image
      (displacement font code bytes (form.apply (font.decode bytes)).toList text) = whole)
    : Glyph.Spans start (start + whole) (shape form code bytes font text matrix index).glyphs ∧
        ∀ g ∈ (shape form code bytes font text matrix index).glyphs,
          (form.apply (font.decode bytes)).toList.length • g.advance = whole := by
  have hlength := length_shape form code bytes font text matrix index
  have hglyphs := getElem_shape form code bytes font text matrix index hstart hwhole
  generalize (shape form code bytes font text matrix index).glyphs = glyphs at hlength hglyphs ⊢
  by_cases hne : glyphs = []
  . subst hne
    exact ⟨⟨by simp, .nil, by simp⟩, by simp⟩
  . have hcount : (form.apply (font.decode bytes)).toList.length ≠ 0 := by
      rw [← hlength, ne_eq, List.length_eq_zero_iff]
      exact hne
    constructor
    . have hspans := Glyph.spans_of_steps hglyphs
      rw [hlength, nsmul_share hcount] at hspans
      exact hspans
    . intro g hg
      obtain ⟨k, hk, rfl⟩ := List.getElem_of_mem hg
      rw [(hglyphs k hk).2, nsmul_share hcount]

end Shape

namespace Content

/-- What text is shown by: codes and the adjustments between them. -/
inductive Piece (α : Type)
  | code (bytes : List UInt8)
  | adjust (amount : α)

def TextItem.pieces {α : Type} (isTwoByte : Bool) : TextItem α → List (Piece α)
  | .text bytes => (splitCodes isTwoByte bytes).map .code
  | .adjust amount => [.adjust amount]

namespace Piece

variable (form : Normalization) (font : Font ℝ)

/-- The characters that a code decodes to; an adjustment has none. -/
def text : Piece ℝ → List Char
  | .code bytes => (form.apply (font.decode bytes)).toList
  | .adjust _ => []

/-- The displacement in text space. -/
noncomputable def displacement (s : TextState ℝ) : Piece ℝ → ℝ × ℝ
  | .code bytes =>
    Galley.displacement font (codeOfBytes bytes) bytes (form.apply (font.decode bytes)).toList s
  | .adjust amount =>
    if font.isVertical then (0, -amount / 1000 * s.fontSize)
    else (-amount / 1000 * s.fontSize * s.horizontalScale / 100, 0)

theorem displacement_eq_of_parameters {s t : TextState ℝ}
    (h : t.toTextParameters = s.toTextParameters) (p : Piece ℝ)
    : p.displacement form font t = p.displacement form font s := by
  cases p with
  | code bytes => simp only [displacement, Galley.displacement, TextState.scale, h]
  | adjust amount => simp only [displacement, h]

end Piece

namespace Command

variable {α : Type}

/-- The array that a command shows; a string by itself is an array of one. -/
def items? : Command α → Option (List (TextItem α))
  | .showText bytes | .nextLineShowText bytes | .nextLineShowSpaced _ _ bytes =>
    some [.text bytes]
  | .showTextArray items => some items
  | _ => none

/-- Whether a command shows text where the text before it ends. -/
def continues : Command α → Bool
  | .showText _ | .showTextArray _ => true
  | _ => false

end Command

/-- The state in which a command shows its text: on the next line, if it moves there. -/
def RunState.atText {α : Type} [Scalar α] (s : RunState α) : Command α → RunState α
  | .nextLineShowText _ => s.withText s.text.nextLine
  | .nextLineShowSpaced wordSpacing charSpacing _ =>
    s.withText { s.text with wordSpacing := wordSpacing, charSpacing := charSpacing }.nextLine
  | _ => s

/-- A piece and the glyphs that are shown for it. -/
structure Drawn where
  piece : Piece ℝ
  glyphs : List (Glyph ℝ)

/-- The glyphs are these characters, which join and share a displacement equally. -/
structure Drawn.Shows (d : Drawn) (text : List Char) (whole : ℝ × ℝ) : Prop where
  chars : d.glyphs.map Glyph.char = text
  shares : ∀ g ∈ d.glyphs, text.length • g.advance = whole
  joined : d.glyphs.IsChain Glyph.Joins

/-- Pieces one behind the other, the first one at `pen`. -/
def Placed (image : Piece ℝ → ℝ × ℝ) (pen : ℝ × ℝ) : List Drawn → Prop
  | [] => True
  | d :: rest =>
    Glyph.Spans pen (pen + image d.piece) d.glyphs ∧ Placed image (pen + image d.piece) rest

theorem placed_append {image : Piece ℝ → ℝ × ℝ} {pen : ℝ × ℝ} {drawn later : List Drawn}
    : Placed image pen (drawn ++ later) ↔
        Placed image pen drawn ∧
          Placed image (pen + (drawn.map fun d => image d.piece).sum) later := by
  induction drawn generalizing pen with
  | nil => simp [Placed]
  | cons d rest ih =>
    simp only [List.cons_append, Placed, List.map_cons, List.sum_cons]
    rw [ih, add_assoc, and_assoc]

/-- Behind a piece, everything in between moves the next one. -/
theorem Placed.position_eq {image : Piece ℝ → ℝ × ℝ} {pen : ℝ × ℝ} {before behind : List Drawn}
    {d d' : Drawn} (between : List Drawn)
    (hplaced : Placed image pen (before ++ d :: (between ++ d' :: behind)))
    {g h : Glyph ℝ} (hg : g ∈ d.glyphs.getLast?) (hh : h ∈ d'.glyphs.head?)
    : h.position = g.position + g.advance + (between.map fun b => image b.piece).sum := by
  obtain ⟨_, hd, hrest⟩ := placed_append.mp hplaced
  obtain ⟨_, hd', _⟩ := placed_append.mp hrest
  rw [hd.last g hg, hd'.first h hh]

theorem Placed.isChain {image : Piece ℝ → ℝ × ℝ} {pen : ℝ × ℝ} {drawn : List Drawn}
    (hplaced : Placed image pen drawn) (hjoined : ∀ d ∈ drawn, d.glyphs.IsChain Glyph.Joins)
    (hne : ∀ d ∈ drawn, d.glyphs ≠ [])
    : (drawn.flatMap Drawn.glyphs).IsChain Glyph.Joins := by
  have hall : ¬[] ∈ drawn.map Drawn.glyphs := by
    rw [List.mem_map]
    rintro ⟨d, hd, hempty⟩
    exact hne d hd hempty
  rw [List.flatMap_def, List.isChain_flatten hall, List.isChain_map]
  constructor
  . intro glyphs hglyphs
    obtain ⟨d, hd, rfl⟩ := List.mem_map.mp hglyphs
    exact hjoined d hd
  . rw [List.isChain_iff_forall_rel_of_append_cons_cons]
    rintro d d' before behind rfl g hg h hh
    have hposition := Placed.position_eq [] hplaced hg hh
    rw [List.map_nil, List.sum_nil, add_zero] at hposition
    exact hposition

namespace RunState

/-- From text space to the page. -/
noncomputable def device (s : RunState ℝ) : Transform ℝ :=
  s.text.textMatrix.concat s.graphics.matrix

/-- Where the next glyph is placed. -/
noncomputable def pen (s : RunState ℝ) : ℝ × ℝ := (s.device.apply 0 s.text.rise).vector

/-- The displacement of a piece on the page. -/
noncomputable def image (form : Normalization) (font : Font ℝ) (s : RunState ℝ) (p : Piece ℝ) :
    ℝ × ℝ :=
  s.device.image (p.displacement form font s.text)

/-- Two states of a run that differ in nothing but where the text stands, as far as text goes. -/
structure Moves (v : ℝ × ℝ) (s t : RunState ℝ) : Prop where
  parameters : t.text.toTextParameters = s.text.toTextParameters
  device : t.device = s.device.shift v

namespace Moves

variable {v w : ℝ × ℝ} {s t u : RunState ℝ}

theorem of_eq (htext : t.text = s.text) (hgraphics : t.graphics = s.graphics) : Moves 0 s t where
  parameters := by rw [htext]
  device := by rw [Transform.shift_zero, RunState.device, RunState.device, htext, hgraphics]

theorem trans (hs : Moves v s t) (ht : Moves w t u) : Moves (v + w) s u where
  parameters := ht.parameters.trans hs.parameters
  device := by rw [ht.device, hs.device, Transform.shift_shift]

theorem pen (h : Moves v s t) : t.pen = s.pen + v := by
  have hrise : t.text.rise = s.text.rise := congrArg TextParameters.rise h.parameters
  rw [RunState.pen, h.device, hrise, Transform.vector_apply_shift]
  rfl

theorem image (h : Moves v s t) (form : Normalization) (font : Font ℝ)
    : t.image form font = s.image form font := by
  funext p
  rw [RunState.image, h.device, Transform.image_shift]
  rw [p.displacement_eq_of_parameters form font h.parameters]
  rfl

theorem currentFont (h : Moves v s t) (setting : Setting ℝ)
    : t.currentFont setting = s.currentFont setting := by
  have hname : t.text.fontName = s.text.fontName := congrArg TextParameters.fontName h.parameters
  unfold RunState.currentFont
  rw [hname]

theorem advance {tx ty : ℝ} (hmatrix : t.graphics.matrix = s.graphics.matrix)
    (htext : t.text = s.text.advance tx ty) : Moves (s.device.image (tx, ty)) s t where
  parameters := by rw [htext]; rfl
  device := by
    rw [RunState.device, hmatrix, htext]
    exact Transform.translate_concat_concat s.text.textMatrix s.graphics.matrix tx ty

end Moves

/-- What a run shows for pieces, one behind the other from the pen of the first state on. -/
structure Draws (form : Normalization) (font : Font ℝ) (s : RunState ℝ) (pieces : List (Piece ℝ))
    (outcome : RunState ℝ × List (Event ℝ)) (drawn : List Drawn) : Prop where
  parts : drawn.map Drawn.piece = pieces
  glyphs : drawn.flatMap Drawn.glyphs = glyphsIn outcome.2
  shows : ∀ d ∈ drawn, d.Shows (d.piece.text form font) (s.image form font d.piece)
  placed : Placed (s.image form font) s.pen drawn
  moves : Moves (pieces.map (s.image form font)).sum s outcome.1

namespace Draws

variable {form : Normalization} {font : Font ℝ} {s : RunState ℝ} {pieces more : List (Piece ℝ)}
variable {first second : RunState ℝ × List (Event ℝ)} {drawn later : List Drawn}

theorem silent (hmoves : Moves 0 s first.1) (hglyphs : glyphsIn first.2 = [])
    : Draws form font s [] first [] where
  parts := rfl
  glyphs := hglyphs.symm
  shows := by simp
  placed := trivial
  moves := hmoves

theorem append (hs : Draws form font s pieces first drawn)
    (ht : Draws form font first.1 more second later)
    : Draws form font s (pieces ++ more) (second.1, first.2 ++ second.2) (drawn ++ later) := by
  have himage := hs.moves.image form font
  constructor
  . rw [List.map_append, hs.parts, ht.parts]
  . rw [List.flatMap_append, glyphsIn_append, hs.glyphs, ht.glyphs]
  . intro d hd
    rcases List.mem_append.mp hd with hd | hd
    . exact hs.shows d hd
    . rw [← himage]
      exact ht.shows d hd
  . have hplaced := ht.placed
    rw [hs.moves.pen, himage, ← hs.parts, List.map_map] at hplaced
    exact placed_append.mpr ⟨hs.placed, hplaced⟩
  . have hmoves := hs.moves.trans ht.moves
    rw [himage, ← List.sum_append, ← List.map_append] at hmoves
    exact hmoves

end Draws

section Run

variable (setting : Setting ℝ) (font : Font ℝ) (index : Nat) (s : RunState ℝ)

theorem draws_showCode (bytes : List UInt8)
    : ∃ drawn,
        Draws setting.form font s [.code bytes] (s.showCode setting font index bytes) drawn := by
  obtain ⟨_, hsilent⟩ := emitted_reportGuess s font index (codeOfBytes bytes)
  have htext := text_reportGuess index s font (codeOfBytes bytes)
  have hgraphics := graphics_reportGuess index s font (codeOfBytes bytes)
  unfold showCode
  dsimp only
  rw [htext, hgraphics]
  obtain ⟨hspans, hshares⟩ := spans_shape setting.form (codeOfBytes bytes) bytes font s.text
    s.graphics.matrix (s.reportGuess font index (codeOfBytes bytes)).1.emitted rfl rfl
  have hchars := map_char_shape setting.form (codeOfBytes bytes) bytes font s.text
    s.graphics.matrix (s.reportGuess font index (codeOfBytes bytes)).1.emitted
  refine ⟨[⟨.code bytes, _⟩], rfl, ?_, ?_, ⟨hspans, trivial⟩, ?_⟩
  . rw [glyphsIn_append, hsilent, glyphsIn_map_glyph]
    simp
  . intro d hd
    rw [List.mem_singleton] at hd
    subst hd
    exact ⟨hchars, hshares, hspans.joined⟩
  . rw [List.map_singleton, List.sum_singleton]
    exact Moves.advance rfl rfl

theorem draws_showCodes (codes : List (List UInt8))
    : ∃ drawn,
        Draws setting.form font s (codes.map .code) (s.showCodes setting font index codes)
          drawn := by
  induction codes generalizing s with
  | nil => exact ⟨[], .silent (.of_eq rfl rfl) rfl⟩
  | cons bytes rest ih =>
    obtain ⟨drawn, hs⟩ := draws_showCode setting font index s bytes
    obtain ⟨later, ht⟩ := ih (s.showCode setting font index bytes).1
    exact ⟨drawn ++ later, hs.append ht⟩

theorem draws_showString (bytes : List UInt8)
    : ∃ drawn,
        Draws setting.form (s.currentFont setting) s
          ((splitCodes (s.currentFont setting).isTwoByte bytes).map .code)
          (s.showString setting index bytes) drawn := by
  unfold showString
  dsimp only
  rw [fst_resolveFont]
  -- A font that is missing is reported, which neither moves the pen nor shows a glyph.
  have hreport
      : Draws setting.form (s.currentFont setting) s [] (s.resolveFont setting index).2 [] := by
    apply Draws.silent
    . exact .of_eq (text_resolveFont setting index s) (graphics_resolveFont setting index s)
    . exact (emitted_resolveFont setting s index).2
  obtain ⟨drawn, hdrawn⟩ := draws_showCodes setting (s.currentFont setting) index
    (s.resolveFont setting index).2.1 (splitCodes (s.currentFont setting).isTwoByte bytes)
  exact ⟨drawn, hreport.append hdrawn⟩

theorem isVertical_currentFont
    : (s.currentFont setting).isVertical
        =
      (setting.fonts.get? s.text.fontName).any Font.isVertical := by
  unfold currentFont
  cases setting.fonts.get? s.text.fontName <;> rfl

theorem adjust_eq_advance (amount : ℝ) {v : ℝ × ℝ}
    (hv : (Piece.adjust amount).displacement setting.form (s.currentFont setting) s.text = v)
    : s.adjust setting amount = s.withText (s.text.advance v.1 v.2) := by
  subst hv
  unfold adjust Piece.displacement
  dsimp only
  rw [isVertical_currentFont]
  split
  . norm_num
  . norm_num [TextState.scale, mul_div_assoc]

theorem draws_adjust (amount : ℝ)
    : Draws setting.form (s.currentFont setting) s [.adjust amount] (s.adjust setting amount, [])
        [⟨.adjust amount, []⟩] := by
  constructor
  . rfl
  . rfl
  . intro d hd
    rw [List.mem_singleton] at hd
    subst hd
    exact ⟨rfl, by simp, .nil⟩
  . exact ⟨⟨by simp, .nil, by simp⟩, trivial⟩
  . rw [List.map_singleton, List.sum_singleton, adjust_eq_advance setting s amount rfl]
    exact .advance rfl rfl

theorem draws_showItems (items : List (TextItem ℝ))
    : ∃ drawn,
        Draws setting.form (s.currentFont setting) s
          (items.flatMap (TextItem.pieces (s.currentFont setting).isTwoByte))
          (s.showItems setting index items) drawn := by
  induction items generalizing s with
  | nil => exact ⟨[], .silent (.of_eq rfl rfl) rfl⟩
  | cons item rest ih =>
    cases item with
    | adjust amount =>
      have hs := draws_adjust setting s amount
      obtain ⟨later, ht⟩ := ih (s.adjust setting amount)
      rw [hs.moves.currentFont] at ht
      exact ⟨_, hs.append ht⟩
    | text bytes =>
      obtain ⟨drawn, hs⟩ := draws_showString setting index s bytes
      obtain ⟨later, ht⟩ := ih (s.showString setting index bytes).1
      rw [hs.moves.currentFont] at ht
      exact ⟨drawn ++ later, hs.append ht⟩

theorem execute_eq_showItems {command : Command ℝ} {items : List (TextItem ℝ)}
    (h : command.items? = some items)
    : s.execute setting index command = (s.atText command).showItems setting index items := by
  cases command with
  | showText | nextLineShowText | nextLineShowSpaced =>
    rw [Command.items?, Option.some.injEq] at h
    subst h
    simp [execute, atText, showItems]
  | showTextArray =>
    rw [Command.items?, Option.some.injEq] at h
    subst h
    rfl
  | _ => simp [Command.items?] at h

theorem atText_of_continues {command : Command ℝ} (h : command.continues = true)
    : s.atText command = s := by
  cases command with
  | showText | showTextArray => rfl
  | _ => simp [Command.continues] at h

theorem currentFont_atText (command : Command ℝ)
    : (s.atText command).currentFont setting = s.currentFont setting := by
  cases command <;> rfl

theorem draws_execute {command : Command ℝ} {items : List (TextItem ℝ)}
    (h : command.items? = some items)
    : ∃ drawn,
        Draws setting.form (s.currentFont setting) (s.atText command)
          (items.flatMap (TextItem.pieces (s.currentFont setting).isTwoByte))
          (s.execute setting index command) drawn := by
  rw [execute_eq_showItems setting index s h, ← currentFont_atText setting s command]
  exact draws_showItems setting index (s.atText command) items

/-- Operators that show text where the text before ends, behind one that may start a line. -/
theorem draws_run {op : Operator ℝ} {ops : List (Operator ℝ)}
    {items : List (List (TextItem ℝ))}
    (hitems : (op :: ops).map (fun o => (Command.ofOperator o).items?) = items.map some)
    (hops : ∀ o ∈ ops, (Command.ofOperator o).continues = true)
    : ∃ drawn,
        Draws setting.form (s.currentFont setting) (s.atText (.ofOperator op))
          (items.flatten.flatMap (TextItem.pieces (s.currentFont setting).isTwoByte))
          (s.run setting index (op :: ops)) drawn := by
  induction ops generalizing s index op items with
  | nil =>
    obtain ⟨shown, later, rfl, hop, hnone⟩ := List.map_eq_cons_iff.mp hitems.symm
    obtain rfl : later = [] := by simpa using hnone
    obtain ⟨drawn, hs⟩ := draws_execute setting index s hop.symm
    rw [List.flatten_singleton]
    refine ⟨drawn, ?_⟩
    simpa [run] using hs
  | cons next rest ih =>
    obtain ⟨shown, later, rfl, hop, hlater⟩ := List.map_eq_cons_iff.mp hitems.symm
    obtain ⟨drawn, hs⟩ := draws_execute setting index s hop.symm
    obtain ⟨behind, ht⟩ := ih (index + 1) (s.execute setting index (.ofOperator op)).1 hlater.symm
      fun o ho => hops o (List.mem_cons_of_mem _ ho)
    -- The next operator starts no line, so its text begins where this one has left the pen.
    rw [atText_of_continues _ (hops next List.mem_cons_self), hs.moves.currentFont,
      currentFont_atText] at ht
    rw [List.flatten_cons, List.flatMap_append]
    exact ⟨drawn ++ behind, hs.append ht⟩

end Run

/-- Text is placed without gaps: glyphs of pieces that are all drawn join. Where pieces lie between
two that are drawn, the second is moved on by their displacements. -/
theorem run_shows_joined (setting : Setting ℝ) (index : Nat) (s : RunState ℝ)
    {op : Operator ℝ} {ops : List (Operator ℝ)} {items : List (List (TextItem ℝ))}
    (hitems : (op :: ops).map (fun o => (Command.ofOperator o).items?) = items.map some)
    (hops : ∀ o ∈ ops, (Command.ofOperator o).continues = true)
    : let font := s.currentFont setting
      let pieces := items.flatten.flatMap (TextItem.pieces font.isTwoByte)
      let image := (s.atText (.ofOperator op)).image setting.form font
      let glyphs := glyphsIn (s.run setting index (op :: ops)).2
      ((∀ p ∈ pieces, p.text setting.form font ≠ []) → glyphs.IsChain Glyph.Joins) ∧
        ∃ drawn : List Drawn,
          drawn.map Drawn.piece = pieces ∧
            drawn.flatMap Drawn.glyphs = glyphs ∧
              (∀ d ∈ drawn, d.Shows (d.piece.text setting.form font) (image d.piece)) ∧
                ∀ before d between d' behind,
                  drawn = before ++ d :: (between ++ d' :: behind) →
                    ∀ g ∈ d.glyphs.getLast?, ∀ h ∈ d'.glyphs.head?,
                      h.position
                        =
                      g.position + g.advance + (between.map fun b => image b.piece).sum := by
  intro font pieces image glyphs
  obtain ⟨drawn, hdrawn⟩ := draws_run setting index s hitems hops
  refine ⟨?_, drawn, hdrawn.parts, hdrawn.glyphs, hdrawn.shows, ?_⟩
  . intro htext
    have hjoined := hdrawn.placed.isChain (fun d hd => (hdrawn.shows d hd).joined) <| by
      intro d hd hempty
      apply htext d.piece
      . rw [show pieces = drawn.map Drawn.piece from hdrawn.parts.symm]
        exact List.mem_map_of_mem hd
      . rw [← (hdrawn.shows d hd).chars, hempty]
        rfl
    rw [hdrawn.glyphs] at hjoined
    exact hjoined
  . rintro before d between d' behind rfl g hg h hh
    exact Placed.position_eq between hdrawn.placed hg hh

/-- A font with the widths of two letters. -/
noncomputable def lettered : FontTables ℝ where
  name := "Lettered"
  firstCode := 0x41
  widths := #[500, 600]

theorem text_lettered (b : UInt8)
    : Piece.text .none lettered.font (.code [b]) = [Encoding.windows1252 b] := by
  exact String.toList_ofList

theorem run_shows_joined_lettered
    : let setting : Setting ℝ := ⟨⟨[("F1", lettered.font)]⟩, .none⟩
      let text := (TextState.initial.setFont "F1" 10).setTextMatrix ⟨2, 0, 0, 2, 72, 700⟩
      let s : RunState ℝ := ⟨.initial ⟨0, 1, -1, 0, 612, 0⟩, text, [], [], 0⟩
      let op : Operator ℝ := ⟨"Tj", [.literal [0x41]]⟩
      let ops : List (Operator ℝ) := [⟨"TJ", [.array [.real (-250), .literal [0x42]]]⟩]
      let items := [[.text [0x41]], [.adjust (-250), .text [0x42]]]
      (op :: ops).map (fun o => (Command.ofOperator o).items?) = items.map some ∧
        (∀ o ∈ ops, (Command.ofOperator o).continues = true) ∧
          ∃ g h : Glyph ℝ,
            glyphsIn (s.run setting 0 (op :: ops)).2 = [g, h] ∧
              g.char = 'A' ∧ h.char = 'B' ∧ h.position = g.position + g.advance + (0, 5) := by
  intro setting text s op ops items
  have hitems : (op :: ops).map (fun o => (Command.ofOperator o).items?) = items.map some := rfl
  have hops : ∀ o ∈ ops, (Command.ofOperator o).continues = true := by
    intro o ho
    rw [List.mem_singleton.mp ho]
    rfl
  refine ⟨hitems, hops, ?_⟩
  obtain ⟨_, drawn, hpieces, hglyphs, hshows, hmoved⟩ := run_shows_joined setting 0 s hitems hops
  have hthree : drawn.map Drawn.piece = [.code [0x41], .adjust (-250), .code [0x42]] := hpieces
  obtain ⟨a, rest, rfl, ha, hrest⟩ := List.map_eq_cons_iff.mp hthree
  obtain ⟨shift, rest, rfl, hshift, hrest⟩ := List.map_eq_cons_iff.mp hrest
  obtain ⟨b, rest, rfl, hb, hrest⟩ := List.map_eq_cons_iff.mp hrest
  obtain rfl : rest = [] := by simpa using hrest
  have hfont : s.currentFont setting = lettered.font := rfl
  have hcharA := (hshows a (by simp)).chars
  have hcharShift := (hshows shift (by simp)).chars
  have hcharB := (hshows b (by simp)).chars
  rw [ha, hfont, text_lettered] at hcharA
  rw [hshift, Piece.text, List.map_eq_nil_iff] at hcharShift
  rw [hb, hfont, text_lettered] at hcharB
  obtain ⟨g, hg, hgA⟩ := List.map_eq_singleton_iff.mp hcharA
  obtain ⟨h, hh, hhB⟩ := List.map_eq_singleton_iff.mp hcharB
  refine ⟨g, h, ?_, hgA, hhB, ?_⟩
  . rw [← hglyphs]
    simp [hg, hcharShift, hh]
  . rw [hmoved [] a [shift] b [] rfl g (by simp [hg]) h (by simp [hh])]
    rw [List.map_singleton, List.sum_singleton, hshift, hfont]
    rw [show s.atText (.ofOperator op) = s from rfl, image, Piece.displacement, if_neg (by decide)]
    congr 1
    norm_num [s, text, device, Transform.image, Transform.concat, Transform.applyDelta,
      Point.vector, GraphicsState.initial, TextState.setTextMatrix, TextState.setFont,
      TextState.initial]

end RunState
end Content
end Galley
