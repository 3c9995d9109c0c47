import ScriptHost.Proofs.Builtin.Number
import ScriptHost.Proofs.Engine.Totality

/-!
# Numbers that scripts write and read

A script writes a number by `IntToString` and reads one from the front of a text by `StringToInt`.
Reading gives the number as it stands there, held within 32 bits, and so undoes writing
(`World.numbers_read_exactly`).
-/

namespace ScriptHost

open Text

namespace World

/-- Whoever calls the function, it gives this value, and nothing changes. -/
def Gives (w : World) (function : FunctionName) (args : List Value) (value : Value) : Prop :=
  ∀ it launch site,
    let out := call it launch function args site w
    out.value = .ok value ∧ out.state = w

variable {w : World} {function : FunctionName}

theorem Reachable.gives_intToString (hw : w.Reachable) (hopen : w.isShutDown = false)
    (hfunction : function = .id ⟨92⟩ ∨ function = .name "IntToString") (n : Int32) :
    w.Gives function [.int n] (.string (toString n.toInt)) := by
  intro it launch site
  let f := Builtin.row .intToString
  have hf : f ∈ Builtin.table := Builtin.row_mem_table .intToString
  have haccepts : f.Accepts [.int n] := FunctionDef.accepts_of_types_eq rfl
  exact hw.call_look hopen hf rfl rfl hfunction haccepts site rfl rfl

theorem Reachable.gives_stringToInt (hw : w.Reachable) (hopen : w.isShutDown = false)
    (hfunction : function = .id ⟨232⟩ ∨ function = .name "StringToInt") (text : String) :
    w.Gives function [.string text] (.int (leadingInt text)) := by
  intro it launch site
  let f := Builtin.row .stringToInt
  have hf : f ∈ Builtin.table := Builtin.row_mem_table .stringToInt
  have haccepts : f.Accepts [.string text] := FunctionDef.accepts_of_types_eq rfl
  exact hw.call_look hopen hf rfl rfl hfunction haccepts site rfl rfl

/-- Numbers are read from the front of texts exactly, and as they were written.

- Every text is made of blanks, at most one sign, digits and a rest.  Whatever these are, the number
  that is read is that of the digits with the sign, held within 32 bits, and counting it up stays
  within 64 bits however many digits there are.
- After the blanks, the sign is a whole character of one byte.
- Scripts read this number by `StringToInt`.  If they read what `IntToString` wrote, and no digit
  follows it, they get the number back that was written. -/
theorem numbers_read_exactly (text : String) :
    (∃ blanks sign digits rest, LeadingParts text blanks sign digits rest) ∧
      (∀ blanks sign digits rest, LeadingParts text blanks sign digits rest →
        (leadingInt text).toInt =
            max (-2 ^ 31) (min (2 ^ 31 - 1) (signed sign (numeral 10 digits))) ∧
          CountsExactly digits) ∧
      SignIsByte (String.ofList (dropBlanks text.toList)) ∧
      ∀ w : World, w.Reachable → w.isShutDown = false →
        ∀ read, (read = .id ⟨232⟩ ∨ read = .name "StringToInt") →
          w.Gives read [.string text] (.int (leadingInt text)) ∧
          ∀ write, (write = .id ⟨92⟩ ∨ write = .name "IntToString") →
            ∀ (n : Int32) (t : String), (∀ c ∈ t.toList.head?, isDecimalDigit c = false) →
              ∃ s, w.Gives write [.int n] (.string s) ∧
                w.Gives read [.string (s ++ t)] (.int n) := by
  refine ⟨exists_leadingParts text, fun blanks sign digits rest h ↦ ?_, signIsByte _,
    fun w hw hopen read hread ↦ ⟨hw.gives_stringToInt hopen hread text, ?_⟩⟩
  · exact ⟨h.toInt_leadingInt, countsExactly h.digits_digit⟩
  · intro write hwrite n t ht
    refine ⟨toString n.toInt, hw.gives_intToString hopen hwrite n, ?_⟩
    have hread := hw.gives_stringToInt hopen hread (toString n.toInt ++ t)
    rwa [leadingInt_toString_append n ht] at hread

/-- More digits than 64 bits hold, after a blank of three bytes, are held at the least number, which
itself is read back from its text. -/
theorem numbers_read_exactly_least :
    let text := "\u3000-99999999999999999999x"
    LeadingParts text ['\u3000'] (some '-') (List.replicate 20 '9') ['x'] ∧
      (leadingInt text).toInt = -2 ^ 31 ∧ fresh.Reachable ∧ fresh.isShutDown = false ∧
      fresh.Gives (.name "StringToInt") [.string text] (.int Int32.minValue) ∧
      ∃ s, fresh.Gives (.name "IntToString") [.int Int32.minValue] (.string s) ∧
        fresh.Gives (.name "StringToInt") [.string (s ++ "-7")] (.int Int32.minValue) := by
  intro text
  have hparts : LeadingParts text ['\u3000'] (some '-') (List.replicate 20 '9') ['x'] := by
    refine ⟨by decide, List.forall_mem_singleton.2 rfl, ?_, ?_, nofun, fun c hc ↦ ?_, ?_⟩
    · rintro c ⟨⟩
      rfl
    · rintro c ⟨⟩
      exact .inl rfl
    · rw [List.eq_of_mem_replicate hc]
      rfl
    · rintro c ⟨⟩
      rfl
  obtain ⟨-, hread, -, hcalls⟩ := numbers_read_exactly text
  have hvalue : (leadingInt text).toInt = -2 ^ 31 :=
    (hread _ _ _ _ hparts).1.trans (by decide +kernel)
  obtain ⟨hgives, hback⟩ :=
    hcalls fresh reachable_fresh isShutDown_fresh (.name "StringToInt") (.inr rfl)
  have hleast : leadingInt text = Int32.minValue := Int32.toInt_inj.1 (hvalue.trans (by decide))
  rw [hleast] at hgives
  have hminus : ∀ c ∈ "-7".toList.head?, isDecimalDigit c = false := by
    rintro c ⟨⟩
    rfl
  exact ⟨hparts, hvalue, reachable_fresh, isShutDown_fresh, hgives,
    hback (.name "IntToString") (.inr rfl) Int32.minValue "-7" hminus⟩

end World

end ScriptHost
