import Mathlib.Data.Fintype.Card
import Mathlib.Data.Fintype.Prod
import Mathlib.Order.Monotone.Basic
import Packrat.Proofs.Verdict

/-!
# Final verdicts

There are finitely many rules in a grammar and finitely many places in a source, and a verdict that
is there at one depth is there at every greater one. So from some depth on no verdict is added, and
that depth is no greater than the number of rules times the number of places
(`verdict_stable`). The verdict at the depth to which the matcher goes is therefore the final one:
it follows from the final verdicts on the parts (`finalVerdict_eq_step`), and a rule without it has
no verdict at any depth (`verdict_refines_final`).
-/

namespace Packrat

variable {P : Type}

/-- The scanner of a source at a numbered place. -/
def Source.scannerAt (source : Source) (place : Fin (source.length + 1)) : Scanner :=
  ⟨source, place, Nat.le_of_lt_succ place.isLt⟩

/-- Every scanner of a source stands at a numbered place. -/
theorem Scanner.exists_place {scanner : Scanner} {source : Source}
    (inSource : scanner.source = source) : ∃ place, source.scannerAt place = scanner := by
  subst inSource
  exact ⟨⟨scanner.position, Nat.lt_succ_of_le scanner.inside⟩, rfl⟩

/-- Two oracles that say the same on a source. -/
def Oracle.AgreesOn (source : Source) (left right : Oracle) : Prop :=
  ∀ id scanner, scanner.source = source → left id scanner = right id scanner

namespace Oracle

variable {source : Source} {left right : Oracle}

/-- Oracles that agree know each other's verdicts. -/
theorem AgreesOn.refines (agrees : left.AgreesOn source right) : left.Refines source right :=
  fun id scanner _ inSource known => (agrees id scanner inSource).symm.trans known

/-- Oracles that know each other's verdicts agree. -/
theorem AgreesOn.of_refines (forth : left.Refines source right)
    (back : right.Refines source left) : left.AgreesOn source right := by
  intro id scanner inSource
  cases known : left id scanner with
  | some result => exact (forth id scanner result inSource known).symm
  | none =>
    cases other : right id scanner with
    | none => rfl
    | some result =>
      rw [back id scanner result inSource other] at known
      contradiction

/-- Agreement goes both ways. -/
theorem AgreesOn.symm (agrees : left.AgreesOn source right) : right.AgreesOn source left :=
  fun id scanner inSource => (agrees id scanner inSource).symm

/-- The same verdicts on parts give the same verdicts. -/
theorem AgreesOn.step (grammar : Grammar P) (agrees : left.AgreesOn source right) :
    (left.step grammar).AgreesOn source (right.step grammar) :=
  .of_refines (step_refines grammar agrees.refines) (step_refines grammar agrees.symm.refines)

/-- A number outside the table of a grammar has a verdict that depends on no other. -/
theorem step_outside {grammar : Grammar P} {id : RuleId} (outside : grammar.size ≤ id)
    (left right : Oracle) (origin : Scanner) :
    left.step grammar id origin = right.step grammar id origin := by
  have never : grammar.rule id = .never := by
    rw [Grammar.rule, Array.getElem?_eq_none outside, Option.getD_none]
  unfold Oracle.step
  rw [never]
  rfl

end Oracle

section Settled

variable (grammar : Grammar P) (source : Source)

/-- The rules of a grammar at the places of a source where there is a verdict at a depth. -/
def settled (depth : Nat) : Finset (Fin grammar.size × Fin (source.length + 1)) :=
  {entry | (verdict grammar depth entry.1 (source.scannerAt entry.2)).isSome}

/-- Verdicts that are there at a depth are there at every greater one. -/
theorem settled_subset {shallow deep : Nat} (deeper : shallow ≤ deep) :
    settled grammar source shallow ⊆ settled grammar source deep := by
  intro entry member
  simp only [settled, Finset.mem_filter_univ] at member ⊢
  obtain ⟨result, known⟩ := Option.isSome_iff_exists.mp member
  exact Option.isSome_iff_exists.mpr
    ⟨result, verdict_refines grammar source deeper _ _ result rfl known⟩

/-- If as many verdicts are there one level deeper, they are the same. -/
theorem agreesOn_of_card {depth : Nat}
    (same : (settled grammar source (depth + 1)).card = (settled grammar source (depth + 2)).card) :
    (verdict grammar (depth + 1)).AgreesOn source (verdict grammar (depth + 2)) := by
  have equal : settled grammar source (depth + 1) = settled grammar source (depth + 2) :=
    Finset.eq_of_subset_of_card_le (settled_subset grammar source (Nat.le_succ _)) same.ge
  have forth := verdict_refines grammar source (Nat.le_succ (depth + 1))
  refine .of_refines forth fun id scanner result inSource known => ?_
  by_cases inTable : id < grammar.size
  · obtain ⟨place, rfl⟩ := Scanner.exists_place inSource
    have member : (⟨id, inTable⟩, place) ∈ settled grammar source (depth + 2) := by
      simp only [settled, Finset.mem_filter_univ]
      exact Option.isSome_iff_exists.mpr ⟨result, known⟩
    rw [← equal] at member
    simp only [settled, Finset.mem_filter_univ] at member
    obtain ⟨earlier, knownEarlier⟩ := Option.isSome_iff_exists.mp member
    have later := forth id _ earlier inSource knownEarlier
    rw [known] at later
    rw [knownEarlier, later]
  · rw [← known]
    exact Oracle.step_outside (Nat.le_of_not_lt inTable) _ _ scanner

/-- Past the number of rules times the number of places no verdict is added. -/
theorem verdict_stable {depth : Nat} (deep : grammar.size * (source.length + 1) < depth) :
    (verdict grammar depth).AgreesOn source (verdict grammar (depth + 1)) := by
  obtain ⟨before, rfl⟩ : ∃ before, depth = before + 1 := ⟨depth - 1, by omega⟩
  have monotone : Monotone fun level => (settled grammar source (level + 1)).card :=
    fun shallow deep deeper =>
      Finset.card_le_card (settled_subset grammar source (Nat.succ_le_succ deeper))
  have bounded : ∀ level,
      (settled grammar source (level + 1)).card ≤ grammar.size * (source.length + 1) := by
    intro level
    have all := Finset.card_le_univ (settled grammar source (level + 1))
    rwa [Fintype.card_prod, Fintype.card_fin, Fintype.card_fin] at all
  have settles : ∀ level, (settled grammar source (level + 1)).card =
      (settled grammar source (level + 2)).card → (settled grammar source (level + 2)).card =
      (settled grammar source (level + 3)).card := by
    intro level same
    have agrees : (verdict grammar (level + 2)).AgreesOn source (verdict grammar (level + 3)) :=
      (agreesOn_of_card grammar source same).step grammar
    refine congrArg Finset.card (Finset.filter_congr fun entry _ => ?_)
    rw [agrees entry.1 (source.scannerAt entry.2) rfl]
  apply agreesOn_of_card
  have here := Nat.stabilises_of_monotone monotone bounded settles
    (show _ ≤ before from Nat.le_of_lt_succ deep)
  have next := Nat.stabilises_of_monotone monotone bounded settles
    (show _ ≤ before + 1 from Nat.le_of_lt deep)
  exact here.trans next.symm

/-- Every greater depth gives the same verdicts. -/
theorem verdict_stable_of_le {depth deeper : Nat}
    (deep : grammar.size * (source.length + 1) < depth) (further : depth ≤ deeper) :
    (verdict grammar depth).AgreesOn source (verdict grammar deeper) := by
  induction deeper, further using Nat.le_induction with
  | base => exact fun id scanner inSource => rfl
  | succ deeper further ih =>
    intro id scanner inSource
    rw [ih id scanner inSource]
    exact verdict_stable grammar source (Nat.lt_of_lt_of_le deep further) id scanner inSource

end Settled

/-! ## The final verdict -/

/-- A depth of calls at which every verdict on a source is there that is there at all. -/
def finalDepth (grammar : Grammar P) (source : Source) : Nat :=
  (grammar.size + 1) * (source.length + 2)

/-- The verdict on every rule at every cursor, to whatever depth it takes. -/
def finalVerdict (grammar : Grammar P) : Oracle := fun id scanner =>
  verdict grammar (finalDepth grammar scanner.source) id scanner

/-- The final depth exceeds the number of rules times the number of places. -/
theorem lt_finalDepth (grammar : Grammar P) (source : Source) :
    grammar.size * (source.length + 1) < finalDepth grammar source := by
  unfold finalDepth
  calc
    grammar.size * (source.length + 1) ≤ grammar.size * (source.length + 2) :=
      Nat.mul_le_mul_left _ (Nat.le_succ _)
    _ < grammar.size * (source.length + 2) + (source.length + 2) := by omega
    _ = (grammar.size + 1) * (source.length + 2) := (Nat.succ_mul _ _).symm

/-- At the final depth and beyond, verdicts are final. -/
theorem verdict_eq_final {grammar : Grammar P} {source : Source} {depth : Nat}
    (deep : finalDepth grammar source ≤ depth) :
    (verdict grammar depth).AgreesOn source (finalVerdict grammar) := by
  intro id scanner inSource
  subst inSource
  exact (verdict_stable_of_le grammar _ (lt_finalDepth grammar _) deep id scanner rfl).symm

/-- A verdict at any depth is final. -/
theorem verdict_refines_final (grammar : Grammar P) (source : Source) (depth : Nat) :
    (verdict grammar depth).Refines source (finalVerdict grammar) := by
  intro id scanner result inSource known
  have deeper := verdict_refines grammar source (Nat.le_max_left depth (finalDepth grammar source))
    id scanner result inSource known
  rwa [verdict_eq_final (Nat.le_max_right depth _) id scanner inSource] at deeper

/-- Final verdicts follow from the final verdicts on parts. -/
theorem finalVerdict_eq_step (grammar : Grammar P) :
    (finalVerdict grammar).step grammar = finalVerdict grammar := by
  funext id scanner
  have final := verdict_eq_final (Nat.le_refl (finalDepth grammar scanner.source))
  calc
    (finalVerdict grammar).step grammar id scanner =
        verdict grammar (finalDepth grammar scanner.source + 1) id scanner :=
      (final.step grammar id scanner rfl).symm
    _ = finalVerdict grammar id scanner := verdict_eq_final (Nat.le_succ _) id scanner rfl

/-- Final verdicts lead forward. -/
theorem finalVerdict_forward (grammar : Grammar P) : (finalVerdict grammar).Forward :=
  fun id scanner => verdict_forward grammar (finalDepth grammar scanner.source) id scanner

end Packrat
