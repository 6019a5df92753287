import Mathlib.Data.Nat.Find
import Galley.Proofs.Content.Operands
import Galley.Proofs.Content.Placement

/-!
This module contains how far the text matrix is from the line matrix, over the reals: whatever is
carried out, the first is the second behind a translation, by all that text and adjustments have
moved on since the line matrix was last set.
-/

namespace Galley

/-- The part of a map that displacements see. -/
def Transform.linear {α : Type} (m : Transform α) : α × α × α × α := (m.a, m.b, m.c, m.d)

/-- The map that moves by a displacement and then applies `m`. -/
noncomputable def Transform.behind (m : Transform ℝ) (v : ℝ × ℝ) : Transform ℝ :=
  (Transform.translate v.1 v.2).concat m

namespace Transform

variable (m : Transform ℝ) (v w : ℝ × ℝ)

theorem behind_zero : m.behind 0 = m := by
  simp [behind, translate, concat]

theorem behind_behind : (m.behind v).behind w = m.behind (v + w) := by
  simp only [behind, translate, concat, mk.injEq, Scalar.zero_real, Scalar.one_real, Prod.fst_add,
    Prod.snd_add]
  refine ⟨?_, ?_, ?_, ?_, ?_, ?_⟩ <;> ring

theorem linear_behind : (m.behind v).linear = m.linear := by
  simp [linear, behind, translate, concat]

end Transform

namespace TextState

/-- Advance by one displacement after the other. -/
noncomputable def advanceAll (s : TextState ℝ) (displacements : List (ℝ × ℝ)) : TextState ℝ :=
  displacements.foldl (fun s v => s.advance v.1 v.2) s

variable (s : TextState ℝ) (displacements more : List (ℝ × ℝ))

theorem advanceAll_append
    : s.advanceAll (displacements ++ more) = (s.advanceAll displacements).advanceAll more := by
  apply List.foldl_append

theorem parameters_advanceAll
    : (s.advanceAll displacements).toTextParameters = s.toTextParameters := by
  induction displacements generalizing s with
  | nil => rfl
  | cons v rest ih => exact ih (s.advance v.1 v.2)

theorem lineMatrix_advanceAll : (s.advanceAll displacements).lineMatrix = s.lineMatrix := by
  induction displacements generalizing s with
  | nil => rfl
  | cons v rest ih => exact ih (s.advance v.1 v.2)

theorem textMatrix_advanceAll
    : (s.advanceAll displacements).textMatrix = s.textMatrix.behind displacements.sum := by
  induction displacements generalizing s with
  | nil => exact (Transform.behind_zero _).symm
  | cons v rest ih =>
    have hfirst : (s.advance v.1 v.2).textMatrix = s.textMatrix.behind v := rfl
    rw [List.sum_cons, ← Transform.behind_behind, ← hfirst]
    exact ih (s.advance v.1 v.2)

end TextState

namespace Content

variable {α : Type}

/-- The operators that set the line matrix. -/
def lineSetters : List String := ["BT", "Tm", "Td", "TD", "T*", "'", "\""]

def Command.setsLine : Command α → Bool
  | .beginText | .setTextMatrix _ | .moveText .. | .moveTextSetLeading .. | .nextLine => true
  | .nextLineShowText _ | .nextLineShowSpaced .. => true
  | _ => false

section Operators

variable [Scalar α]

/-- Whether an operator sets the line matrix; a malformed one does not. -/
def Operator.setsLine (op : Operator α) : Bool :=
  lineSetters.contains op.name && !(Command.ofOperator op).isMalformed

theorem setsLine_of_reader? {name expected : String} {operands : List (Operand α)}
    {command : Command α} {read : List (Operand α) → Option (Command α)}
    (h : Command.reader? name = some (expected, read)) (hread : read operands = some command)
    : command.setsLine = lineSetters.contains name ∧ command.isMalformed = false := by
  have hname := Command.operatorName?_of_reader? h hread
  cases command with
  | other | malformed => cases hname
  | _ =>
    obtain rfl := Option.some_inj.mp hname
    exact ⟨rfl, rfl⟩

theorem setsLine_ofOperator (op : Operator α)
    : (Command.ofOperator op).setsLine = op.setsLine := by
  unfold Operator.setsLine Command.ofOperator
  cases hreader : Command.reader? (α := α) op.name with
  | none =>
    have hname : lineSetters.contains op.name = false := by
      rw [← Bool.not_eq_true]
      intro hmem
      simp only [lineSetters, List.contains_eq_mem, List.mem_cons, List.not_mem_nil, or_false,
        decide_eq_true_eq] at hmem
      rcases hmem with h | h | h | h | h | h | h <;> rw [h] at hreader <;> cases hreader
    rw [hname]
    rfl
  | some reader =>
    obtain ⟨expected, read⟩ := reader
    dsimp only
    cases hread : read op.operands with
    | none =>
      rw [Option.getD_none, Command.isMalformed, Bool.not_true, Bool.and_false]
      rfl
    | some command =>
      obtain ⟨hsets, hmalformed⟩ := setsLine_of_reader? hreader hread
      rw [Option.getD_some, hsets, hmalformed, Bool.not_false, Bool.and_true]

end Operators

/-- The index of the last operator that sets the line matrix, `0` if none does. -/
def lineStart [Scalar α] (ops : List (Operator α)) : Nat :=
  Nat.findGreatest (fun i => ops[i]?.any Operator.setsLine = true) ops.length

section LineStart

variable [Scalar α] (ops : List (Operator α)) (op : Operator α)

theorem lineStart_le : lineStart ops ≤ ops.length := Nat.findGreatest_le _

theorem lineStart_concat
    : lineStart (ops ++ [op]) = if op.setsLine then ops.length else lineStart ops := by
  obtain ⟨hle, hsets, hlast⟩ := Nat.findGreatest_eq_iff.mp (rfl : lineStart ops = lineStart ops)
  have hfront : ∀ i < ops.length, (ops ++ [op])[i]? = ops[i]? := fun i hi =>
    List.getElem?_append_left hi
  have hend : (ops ++ [op])[ops.length]? = some op := List.getElem?_concat_length
  have hlength : (ops ++ [op]).length = ops.length + 1 := List.length_append
  conv_lhs => unfold lineStart
  rw [Nat.findGreatest_eq_iff, hlength]
  split
  next hop =>
    refine ⟨Nat.le_succ _, fun _ => by rwa [hend], ?_⟩
    intro i hlt _
    rw [List.getElem?_eq_none (by omega)]
    exact Bool.false_ne_true
  next hop =>
    refine ⟨Nat.le_succ_of_le hle, ?_, ?_⟩
    . intro hne
      have hany := hsets hne
      have hlt : lineStart ops < ops.length := by
        apply Nat.lt_of_not_le
        intro hge
        rw [List.getElem?_eq_none hge] at hany
        cases hany
      rwa [hfront _ hlt]
    . intro i hlt _
      rcases Nat.lt_trichotomy i ops.length with hi | hi | hi
      . rw [hfront i hi]
        exact hlast hlt hi.le
      . rw [hi, hend]
        exact hop
      . rw [List.getElem?_eq_none (by omega)]
        exact Bool.false_ne_true

end LineStart

/-- The second state is reached from the first one by advancing over pieces. -/
def Passes (form : Normalization) (font : Font ℝ) (pieces : List (Piece ℝ))
    (s t : TextState ℝ) : Prop :=
  t = s.advanceAll (pieces.map (Piece.displacement form font s))

section Passes

variable {form : Normalization} {font : Font ℝ} {pieces more : List (Piece ℝ)}
variable {s t u : TextState ℝ}

theorem Passes.nil : Passes form font [] s s := by
  rfl

theorem Passes.parameters (h : Passes form font pieces s t)
    : t.toTextParameters = s.toTextParameters := by
  rw [h]
  apply TextState.parameters_advanceAll

theorem Passes.append (hs : Passes form font pieces s t) (ht : Passes form font more t u)
    : Passes form font (pieces ++ more) s u := by
  have hdisplacement : Piece.displacement form font t = Piece.displacement form font s := by
    funext p
    exact p.displacement_eq_of_parameters form font hs.parameters
  unfold Passes
  rw [List.map_append, TextState.advanceAll_append, ← hs, ← hdisplacement]
  exact ht

end Passes

namespace RunState

section Showing

variable (setting : Setting ℝ) (font : Font ℝ) (index : Nat) (s : RunState ℝ)

theorem passes_showCode (bytes : List UInt8)
    : Passes setting.form font [.code bytes] s.text
        (s.showCode setting font index bytes).1.text := by
  have htext := text_reportGuess index s font (codeOfBytes bytes)
  unfold showCode
  dsimp only
  rw [htext]
  rfl

theorem passes_showCodes (codes : List (List UInt8))
    : Passes setting.form font (codes.map .code) s.text
        (s.showCodes setting font index codes).1.text := by
  induction codes generalizing s with
  | nil => exact .nil
  | cons bytes rest ih =>
    have hs := passes_showCode setting font index s bytes
    exact hs.append (ih (s.showCode setting font index bytes).1)

theorem passes_showString (bytes : List UInt8)
    : Passes setting.form (s.currentFont setting)
        ((splitCodes (s.currentFont setting).isTwoByte bytes).map .code) s.text
        (s.showString setting index bytes).1.text := by
  have hcodes := passes_showCodes setting (s.currentFont setting) index
    (s.resolveFont setting index).2.1 (splitCodes (s.currentFont setting).isTwoByte bytes)
  unfold showString
  dsimp only
  rw [fst_resolveFont]
  rw [text_resolveFont setting index s] at hcodes
  exact hcodes

theorem passes_adjust (amount : ℝ)
    : Passes setting.form (s.currentFont setting) [.adjust amount] s.text
        (s.adjust setting amount).text := by
  rw [adjust_eq_advance setting s amount rfl]
  rfl

theorem currentFont_of_passes {font : Font ℝ} {pieces : List (Piece ℝ)} {s t : RunState ℝ}
    (h : Passes setting.form font pieces s.text t.text)
    : t.currentFont setting = s.currentFont setting := by
  have hname : t.text.fontName = s.text.fontName := congrArg TextParameters.fontName h.parameters
  unfold currentFont
  rw [hname]

theorem passes_showItems (items : List (TextItem ℝ))
    : Passes setting.form (s.currentFont setting)
        (items.flatMap (TextItem.pieces (s.currentFont setting).isTwoByte)) s.text
        (s.showItems setting index items).1.text := by
  induction items generalizing s with
  | nil => exact .nil
  | cons item rest ih =>
    cases item with
    | adjust amount =>
      have hs := passes_adjust setting s amount
      have ht := ih (s.adjust setting amount)
      rw [currentFont_of_passes setting hs] at ht
      exact hs.append ht
    | text bytes =>
      have hs := passes_showString setting index s bytes
      have ht := ih (s.showString setting index bytes).1
      rw [currentFont_of_passes setting hs] at ht
      exact hs.append ht

end Showing

variable (setting : Setting ℝ) (index : Nat) (s : RunState ℝ)

/-- Whether text is placed at the start of a line, or else stays where it stood. -/
inductive Places (s t : TextState ℝ) : (onLine : Bool) → Prop
  | line : t.textMatrix = t.lineMatrix → Places s t true
  | stay : t.textMatrix = s.textMatrix → t.lineMatrix = s.lineMatrix → Places s t false

/-- The displacements by which a command moves on, one for each code and each adjustment. -/
noncomputable def displacements (command : Command ℝ) : List (ℝ × ℝ) :=
  let font := s.currentFont setting
  ((command.items?.getD []).flatMap (TextItem.pieces font.isTwoByte)).map
    (Piece.displacement setting.form font (s.atText command).text)

/-- A command first places the text, at the start of a line or where it stood, and then moves on. -/
theorem exists_places_execute (command : Command ℝ)
    : ∃ t : TextState ℝ, Places s.text t command.setsLine ∧
        (s.execute setting index command).1.text
          =
        t.advanceAll (s.displacements setting command) := by
  cases hitems : command.items? with
  | some items =>
    refine ⟨(s.atText command).text, ?_, ?_⟩
    . cases command with
      | showText | showTextArray => exact .stay rfl rfl
      | nextLineShowText | nextLineShowSpaced => exact .line rfl
      | _ => cases hitems
    . have hpasses := passes_showItems setting index (s.atText command) items
      rw [currentFont_atText] at hpasses
      rw [execute_eq_showItems setting index s hitems, hpasses, displacements, hitems]
      rfl
  | none =>
    have hnone : s.displacements setting command = [] := by
      rw [displacements, hitems]
      rfl
    rw [hnone]
    refine ⟨_, ?_, rfl⟩
    cases command with
    | beginText | setTextMatrix | moveText | moveTextSetLeading | nextLine => exact .line rfl
    | restore =>
      unfold execute
      dsimp only
      split
      . exact .stay rfl rfl
      . exact .stay rfl rfl
    | showText | showTextArray | nextLineShowText | nextLineShowSpaced => cases hitems
    | _ => exact .stay rfl rfl

section Run

variable (ops : List (Operator ℝ)) (op : Operator ℝ)

/-- The displacements of each operator of a run. -/
noncomputable def displacementsOf : List (List (ℝ × ℝ)) :=
  ops.mapIdx fun i op => (s.stateAt setting 0 ops i).displacements setting (.ofOperator op)

/-- How far a run has moved on in all since the line matrix was last set. -/
noncomputable def travelled : ℝ × ℝ :=
  ((s.displacementsOf setting ops).drop (lineStart ops)).flatten.sum

theorem displacementsOf_concat
    : s.displacementsOf setting (ops ++ [op])
        =
      s.displacementsOf setting ops ++
        [(s.run setting 0 ops).1.displacements setting (.ofOperator op)] := by
  unfold displacementsOf stateAt
  rw [List.mapIdx_concat, List.take_left]
  congr 1
  rw [List.mapIdx_eq_mapIdx_iff]
  intro i hi
  rw [List.take_append_of_le_length hi.le]

theorem travelled_concat
    : s.travelled setting (ops ++ [op])
        =
      (if op.setsLine then 0 else s.travelled setting ops) +
        ((s.run setting 0 ops).1.displacements setting (.ofOperator op)).sum := by
  have hlength : (s.displacementsOf setting ops).length = ops.length := List.length_mapIdx
  unfold travelled
  rw [displacementsOf_concat, lineStart_concat]
  split
  . rw [← hlength, List.drop_left, List.flatten_singleton, zero_add]
  . rw [List.drop_append_of_le_length (hlength ▸ lineStart_le ops), List.flatten_concat,
      List.sum_append]

variable {ops op}

theorem lineMatrix_execute (h : op.setsLine = false)
    : (s.execute setting index (.ofOperator op)).1.text.lineMatrix = s.text.lineMatrix := by
  obtain ⟨t, hplaces, htext⟩ := exists_places_execute setting index s (.ofOperator op)
  rw [setsLine_ofOperator, h] at hplaces
  cases hplaces with
  | stay _ hline => rw [htext, TextState.lineMatrix_advanceAll, hline]

theorem textMatrix_execute {v : ℝ × ℝ} (h : s.text.textMatrix = s.text.lineMatrix.behind v)
    : (s.execute setting index (.ofOperator op)).1.text.textMatrix
        =
      (s.execute setting index (.ofOperator op)).1.text.lineMatrix.behind
        ((if op.setsLine then 0 else v) +
          (s.displacements setting (.ofOperator op)).sum) := by
  obtain ⟨t, hplaces, htext⟩ := exists_places_execute setting index s (.ofOperator op)
  rw [htext, TextState.textMatrix_advanceAll, TextState.lineMatrix_advanceAll,
    ← Transform.behind_behind]
  rw [setsLine_ofOperator] at hplaces
  generalize op.setsLine = onLine at hplaces ⊢
  cases hplaces with
  | line hmatrix => rw [hmatrix, if_pos rfl, Transform.behind_zero]
  | stay hmatrix hline => rw [hmatrix, hline, if_neg Bool.false_ne_true, h]

/-- From a state with both matrices equal, a run takes them apart by how far it has moved on. -/
theorem textMatrix_run (h : s.text.textMatrix = s.text.lineMatrix)
    : (s.run setting 0 ops).1.text.textMatrix
        =
      (s.run setting 0 ops).1.text.lineMatrix.behind (s.travelled setting ops) := by
  induction ops using List.reverseRecOn with
  | nil => exact h.trans (Transform.behind_zero _).symm
  | append_singleton ops op ih =>
    rw [run_concat, travelled_concat]
    exact textMatrix_execute setting _ _ ih

theorem matrices_execute_of_saves (h : op.isSave = true ∨ op.isRestore = true)
    : (s.execute setting index (.ofOperator op)).1.text.textMatrix = s.text.textMatrix ∧
        (s.execute setting index (.ofOperator op)).1.text.lineMatrix = s.text.lineMatrix := by
  rcases h with hsave | hrestore
  . rw [Operator.ofOperator_of_isSave hsave]
    exact ⟨rfl, rfl⟩
  . rw [Operator.ofOperator_of_isRestore hrestore]
    unfold execute
    dsimp only
    split
    . exact ⟨rfl, rfl⟩
    . exact ⟨rfl, rfl⟩

end Run

theorem run_translates_line (setting : Setting ℝ) (sheet : Sheet ℝ) (ops : List (Operator ℝ))
    : let start := RunState.initial sheet
      let text := (start.run setting 0 ops).1.text
      let v := ((start.displacementsOf setting ops).drop (lineStart ops)).flatten.sum
      text.textMatrix.linear = text.lineMatrix.linear ∧
        text.textMatrix = (Transform.translate v.1 v.2).concat text.lineMatrix ∧
          ∀ i, ∀ op ∈ ops[i]?,
            (op.setsLine = false →
              (start.stateAt setting 0 ops (i + 1)).text.lineMatrix
                =
              (start.stateAt setting 0 ops i).text.lineMatrix) ∧
            (op.name = "q" ∨ op.name = "Q" →
              (start.stateAt setting 0 ops (i + 1)).text.textMatrix
                  =
                (start.stateAt setting 0 ops i).text.textMatrix ∧
              (start.stateAt setting 0 ops (i + 1)).text.lineMatrix
                  =
                (start.stateAt setting 0 ops i).text.lineMatrix) := by
  intro start text v
  have hrun : text.textMatrix = text.lineMatrix.behind v := textMatrix_run setting start rfl
  refine ⟨?_, hrun, ?_⟩
  . rw [hrun, Transform.linear_behind]
  . intro i op hop
    rw [stateAt_succ setting 0 start hop]
    refine ⟨lineMatrix_execute setting _ _, ?_⟩
    intro hname
    apply matrices_execute_of_saves
    simpa [Operator.isSave, Operator.isRestore] using hname

/-- A line with a letter and an adjustment, and a state that is saved and restored behind them. -/
def adjustedLine : List (Operator ℝ) :=
  [⟨"Tf", [.name "F1", .real 10]⟩, ⟨"Td", [.real 72, .real 700]⟩,
    ⟨"TJ", [.array [.literal [0x41], .real (-300)]]⟩, ⟨"q", []⟩, ⟨"Tf", [.name "F2", .real 5]⟩,
    ⟨"Q", []⟩]

theorem run_translates_line_adjusted
    : let setting : Setting ℝ := ⟨⟨[("F1", lettered.font)]⟩, .none⟩
      let start : RunState ℝ := .initial .letter
      let text := (start.run setting 0 adjustedLine).1.text
      text.textMatrix.linear = text.lineMatrix.linear ∧
        text.textMatrix = (Transform.translate 8 0).concat text.lineMatrix ∧
          (start.stateAt setting 0 adjustedLine 6).text.textMatrix
            =
          (start.stateAt setting 0 adjustedLine 5).text.textMatrix := by
  intro setting start text
  obtain ⟨hlinear, hmatrix, hsteps⟩ := run_translates_line setting .letter adjustedLine
  have hline : lineStart adjustedLine = 1 := by decide
  have hmoved : ((start.displacementsOf setting adjustedLine).drop 1).flatten.sum = (8, 0) := by
    let t := (start.stateAt setting 0 adjustedLine 2).text
    have hpieces
        : (start.displacementsOf setting adjustedLine).drop 1
            =
          [[], [Piece.displacement .none lettered.font t (.code [0x41]),
            Piece.displacement .none lettered.font t (.adjust (-300))], [], [], []] := rfl
    have hsize : t.fontSize = 10 := rfl
    have hscale : t.horizontalScale = 100.0 := rfl
    have hspacing : t.charSpacing = 0.0 ∧ t.wordSpacing = 0.0 := ⟨rfl, rfl⟩
    have hwidth : lettered.font.width? (codeOfBytes [0x41]) = some 500 := rfl
    have hhorizontal : lettered.font.isVertical = false := rfl
    have hcode : Piece.displacement .none lettered.font t (.code [0x41]) = (5, 0) := by
      simp only [Piece.displacement, displacement, TextState.scale, hsize, hscale, hspacing,
        hwidth, hhorizontal]
      norm_num
    have hadjust : Piece.displacement .none lettered.font t (.adjust (-300)) = (3, 0) := by
      simp only [Piece.displacement, hsize, hscale, hhorizontal]
      norm_num
    rw [hpieces, hcode, hadjust]
    norm_num
  rw [hline, hmoved] at hmatrix
  exact ⟨hlinear, hmatrix, ((hsteps 5 _ rfl).2 (.inr rfl)).1⟩

end RunState

end Content
end Galley
