import Galley.Json.Parser
import Galley.Json.Printer

/-!
This module contains JSON strings: a text that is written with its escapes is read back, whatever
characters it has.
-/

namespace Galley.Json

/-- The parts of a string as which a character is written. -/
inductive Spells : StringPart → Char → Prop
  | char (c : Char) : Spells (.char c) c
  | unit {c : Char} : c.toNat < 0x20 → Spells (.unit c.toNat) c

theorem joinParts?_cons {part : StringPart} {c : Char} (h : Spells part c)
    (parts : List StringPart) : joinParts? (part :: parts) = (joinParts? parts).map (c :: ·) := by
  cases h with
  | char => rw [joinParts?]
  | unit hcontrol =>
    rw [joinParts?.eq_def]
    dsimp only
    rw [if_neg (by omega), if_neg (by omega), Char.ofNat_toNat]

theorem controlEscape_eq {c : Char} (h : c.toNat < 0x20)
    : (controlEscape c).toList =
        ['\\', 'u', '0', '0', (c.toNat / 16).digitChar, (c.toNat % 16).digitChar] := by
  have hall : ∀ n < 0x20, (controlEscape (.ofNat n)).toList =
      ['\\', 'u', '0', '0', (n / 16).digitChar, (n % 16).digitChar] := by
    decide +kernel
  have hc := hall c.toNat h
  rw [Char.ofNat_toNat] at hc
  exact hc

theorem unit?_control {n : Nat} (h : n < 0x20)
    : unit? '0' '0' (n / 16).digitChar (n % 16).digitChar = some n := by
  have hall : ∀ n < 0x20, unit? '0' '0' (n / 16).digitChar (n % 16).digitChar = some n := by
    decide +kernel
  exact hall n h

theorem stringParts?_char {c : Char} (hquote : c ≠ '"') (hslash : c ≠ '\\')
    (hcontrol : ¬ c.toNat < 0x20) (tail : List Char)
    : stringParts? (c :: tail) =
        (stringParts? tail).map fun (parts, after) => (.char c :: parts, after) := by
  rw [stringParts?.eq_5 c tail hquote (fun _ _ _ _ _ h => absurd h hslash)
    (fun _ _ h => absurd h hslash), if_neg (by simp [hcontrol, hslash])]
  cases stringParts? tail <;> rfl

theorem stringParts?_escape {e c : Char} (he : e ≠ 'u') (hc : escapedChar? e = some c)
    (tail : List Char)
    : stringParts? ('\\' :: e :: tail) =
        (stringParts? tail).map fun (parts, after) => (.char c :: parts, after) := by
  rw [stringParts?.eq_4 e tail (fun _ _ _ _ _ h => absurd h he), hc]
  cases stringParts? tail <;> rfl

theorem stringParts?_escapeChar (c : Char) (tail : List Char)
    : ∃ part, Spells part c ∧ stringParts? ((escapeChar c).toList ++ tail) =
        (stringParts? tail).map fun (parts, after) => (part :: parts, after) := by
  unfold escapeChar
  split
  . exact ⟨_, .char _, stringParts?_escape (by decide) rfl tail⟩
  . exact ⟨_, .char _, stringParts?_escape (by decide) rfl tail⟩
  . exact ⟨_, .char _, stringParts?_escape (by decide) rfl tail⟩
  . exact ⟨_, .char _, stringParts?_escape (by decide) rfl tail⟩
  . exact ⟨_, .char _, stringParts?_escape (by decide) rfl tail⟩
  . exact ⟨_, .char _, stringParts?_escape (by decide) rfl tail⟩
  . exact ⟨_, .char _, stringParts?_escape (by decide) rfl tail⟩
  next hquote hslash _ _ _ _ _ =>
    split
    next hcontrol =>
      refine ⟨_, .unit hcontrol, ?_⟩
      rw [controlEscape_eq hcontrol]
      show stringParts? ('\\' :: 'u' :: '0' :: '0' :: _ :: _ :: tail) = _
      rw [stringParts?, unit?_control hcontrol]
      cases stringParts? tail <;> rfl
    next hcontrol =>
      refine ⟨_, .char c, ?_⟩
      rw [Char.toString_eq_singleton, String.toList_singleton]
      exact stringParts?_char hquote hslash hcontrol tail

/-- The characters of a text between its quotes. -/
def escaped (text : List Char) : List Char := text.flatMap fun c => (escapeChar c).toList

theorem toList_writeText (text : String)
    : (writeText text).toList = '"' :: (escaped text.toList ++ ['"']) := by
  unfold writeText escaped
  simp [String.toList_join, List.flatMap_map]

theorem stringParts?_escaped (text rest : List Char)
    : ∃ parts, stringParts? (escaped text ++ '"' :: rest) = some (parts, rest) ∧
        joinParts? parts = some text := by
  induction text with
  | nil => exact ⟨[], rfl, rfl⟩
  | cons c text ih =>
    obtain ⟨parts, hparts, htext⟩ := ih
    obtain ⟨part, hpart, hc⟩ := stringParts?_escapeChar c (escaped text ++ '"' :: rest)
    refine ⟨part :: parts, ?_, ?_⟩
    . unfold escaped at hparts hc ⊢
      rw [List.flatMap_cons, List.append_assoc, hc, hparts, Option.map_some]
    . rw [joinParts?_cons hpart, htext, Option.map_some]

theorem string?_escaped (text : String) (rest : List Char)
    : string? (escaped text.toList ++ '"' :: rest) = some (.text text, rest) := by
  obtain ⟨parts, hparts, htext⟩ := stringParts?_escaped text.toList rest
  unfold string?
  rw [hparts]
  dsimp only [Option.bind_eq_bind, Option.bind_some]
  rw [htext]
  dsimp only
  rw [String.ofList_toList]
  rfl

end Galley.Json
