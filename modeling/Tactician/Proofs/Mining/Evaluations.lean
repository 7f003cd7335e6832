import Mathlib
import Tactician.Analysis.Table
import Tactician.Proofs.Mining.Framing

/-!
# Gathering the evaluations of a game

The evaluations a game is mined with come from two places: those supplied with the request, each
used for its ply when it is of the ply's position (the first four FEN fields agree), and an
evaluator asked about the rest, one ply after another.  An evaluator that logs every request with
its reply (`Evaluator.recorded`) answers as the one it wraps, so its log shows how any evaluator
is asked.

Main statement (`gatherEvaluations_asks_in_turn`): for a game of at least one move (as every
parsed game is, `plyCount_pos_of_parseGame`), the evaluator is asked about the plies left, once
each and in order, with the ply's FEN, the time budget and the number of lines, until it says that
the engine is unavailable.  A gathering that succeeds lists every ply whose position does not end
the game, with its supplied evaluation or else the evaluator's answer, and leaves a ply empty
exactly when its request failed (with no evaluator, when nothing of its position was supplied).
The gathering fails exactly when the engine is unavailable, when with no evaluator nothing
supplied is of its position, or when there were plies to ask about and every request failed.
-/

namespace Tactician
namespace Analysis

variable {σ : Type}

/-! ## The plies of a game -/

/-- A parsed game has at least one move. -/
theorem plyCount_pos_of_parseGame {text : String} {g : Pgn.Game}
    (parsed : Pgn.parseGame text = .ok g) : 0 < g.plyCount := by
  obtain ⟨-, -, -, -, moved⟩ := parseGame_eq_ok parsed
  exact moved

theorem mem_livePlies {g : Pgn.Game} {ply : Nat} :
    ply ∈ livePlies g ↔ ply ≤ g.plyCount ∧ ply ∉ g.terminalPlies := by
  simp [livePlies]

/-- The first position of a game with a move does not end it. -/
theorem zero_mem_livePlies {g : Pgn.Game} (moved : 0 < g.plyCount) : 0 ∈ livePlies g :=
  mem_livePlies.mpr ⟨Nat.zero_le _, not_mem_terminalPlies moved⟩

/-! ## Supplied evaluations -/

section Supplied

variable {g : Pgn.Game} {supplied : Evaluations}

/-- A supplied evaluation is used exactly when it is given for the ply and is of its position. -/
theorem suppliedAt_eq_some {ply : Nat} {e : Evaluation} :
    suppliedAt g supplied ply = some e ↔
      supplied.at? ply = some e ∧ samePosition e.fen (g.fens.getD ply "") = true := by
  unfold suppliedAt
  rcases given : supplied.at? ply with _ | e'
  · simp
  · by_cases same : samePosition e'.fen (g.fens.getD ply "") = true
    · simp only [same, if_true, Option.some.injEq]
      exact ⟨fun found => ⟨found, found ▸ same⟩, fun found => found.1⟩
    · simp only [same, Bool.false_eq_true, if_false, reduceCtorEq, false_iff, not_and,
        Option.some.injEq]
      rintro rfl
      exact same

theorem mem_requestedPlies {ply : Nat} :
    ply ∈ requestedPlies g supplied ↔ ply ∈ livePlies g ∧ suppliedAt g supplied ply = none := by
  simp [requestedPlies]

theorem requestedPlies_ascending : (requestedPlies g supplied).Pairwise (· < ·) :=
  (List.pairwise_lt_range.filter _).filter _

theorem requestedPlies_eq_nil :
    requestedPlies g supplied = [] ↔ ∀ ply ∈ livePlies g, (suppliedAt g supplied ply).isSome := by
  simp [requestedPlies, List.filter_eq_nil_iff, Option.ne_none_iff_isSome]

/-- With nothing left to ask, the supplied evaluations give one for every live ply. -/
theorem supplied_of_requestedPlies_eq_nil (none_left : requestedPlies g supplied = []) :
    (livePlies g).filterMap (fun ply => (suppliedAt g supplied ply).map fun e => (ply, some e)) =
      (livePlies g).map fun ply => (ply, suppliedAt g supplied ply) := by
  rw [← List.filterMap_eq_map]
  refine List.filterMap_congr fun ply live => ?_
  obtain ⟨e, found⟩ := Option.isSome_iff_exists.mp (requestedPlies_eq_nil.mp none_left ply live)
  simp [found]

theorem supplied_eq_nil :
    (livePlies g).filterMap (fun ply => (suppliedAt g supplied ply).map fun e => (ply, some e)) =
      [] ↔ ∀ ply ∈ livePlies g, suppliedAt g supplied ply = none := by
  simp [List.filterMap_eq_nil_iff]

end Supplied

/-- A list with a value for each of its plies gives a ply of the list its value. -/
theorem Evaluations.at?_map (l : List Nat) (v : Nat → Option Evaluation) (ply : Nat) :
    Evaluations.at? (l.map fun p => (p, v p)) ply = if ply ∈ l then v ply else none := by
  induction l with
  | nil => rfl
  | cons p rest induction =>
    by_cases here : p = ply
    · subst here
      simp [Evaluations.at?]
    · have differ : (p == ply) = false := beq_false_of_ne here
      simp only [Evaluations.at?, List.map_cons, List.find?_cons, differ, List.mem_cons,
        Ne.symm here, false_or] at induction ⊢
      exact induction

/-! ## Asking an evaluator -/

/-- What an evaluator replies to a request. -/
abbrev Reply := Except EvalFailure Evaluation

/-- The evaluator that answers as `e` does and logs each request with its reply. -/
def Evaluator.recorded (e : Evaluator σ) : Evaluator (σ × List (Request × Reply)) where
  analyse fen movetime lines st :=
    let answer := (e.analyse fen movetime lines).run st.1
    (answer.1, answer.2, st.2 ++ [((fen, movetime, lines), answer.1)])

theorem Evaluator.recorded_run (e : Evaluator σ) {fen : String} {movetime lines : Int} {s s' : σ}
    {reply : Reply} (answered : (e.analyse fen movetime lines).run s = (reply, s'))
    (log : List (Request × Reply)) :
    (e.recorded.analyse fen movetime lines).run (s, log) =
      (reply, s', log ++ [((fen, movetime, lines), reply)]) := by
  simp only [StateT.run] at answered
  simp only [Evaluator.recorded, StateT.run, answered]

/-- Answers listed from replies give a ply the evaluation of the first reply for it. -/
theorem Evaluations.at?_replies (answered : List (Nat × Reply)) (ply : Nat) :
    Evaluations.at? (answered.map fun a => (a.1, a.2.toOption)) ply =
      (answered.lookup ply).bind Except.toOption := by
  induction answered with
  | nil => rfl
  | cons a rest induction =>
    obtain ⟨k, r⟩ := a
    by_cases here : k = ply
    · subst here
      simp [Evaluations.at?]
    · have differ : (k == ply) = false := beq_false_of_ne here
      have differ' : (ply == k) = false := beq_false_of_ne (Ne.symm here)
      simp only [Evaluations.at?, List.map_cons, List.find?_cons, differ, List.lookup_cons,
        differ'] at induction ⊢
      exact induction

/-- Plies asked about with the replies, in the order asked: they begin the plies to ask, and the
asking stops early only after a reply that the engine is unavailable, which only the last reply
can be. -/
structure InTurn (plies : List Nat) (answered : List (Nat × Reply)) : Prop where
  /-- The plies asked begin the plies to ask. -/
  leading : answered.map Prod.fst <+: plies
  /-- No reply before the last says that the engine is unavailable. -/
  going : ∀ a ∈ answered.dropLast, ∀ m, a.2 ≠ .error (.unavailable m)
  /-- Plies are left unasked only after a reply that the engine is unavailable. -/
  stopped : answered.length < plies.length →
    ∃ a ∈ answered.getLast?, ∃ m, a.2 = .error (.unavailable m)

/-- Asking about plies in turn, and what the asking gives: the message of an unavailable engine
exactly when the last reply is one, and otherwise each ply asked with its evaluation, none where
its position failed. -/
structure Asked (plies : List Nat) (answered : List (Nat × Reply))
    (result : Except String Evaluations) : Prop extends InTurn plies answered where
  /-- The asking fails with a message exactly when the last reply is that message. -/
  unavailable : ∀ m, result = .error m ↔ ∃ a ∈ answered.getLast?, a.2 = .error (.unavailable m)
  /-- What it gives otherwise is read off the replies. -/
  answers : ∀ answers, result = .ok answers → answers = answered.map fun a => (a.1, a.2.toOption)

namespace Asked

theorem nil : Asked [] [] (.ok []) where
  leading := List.prefix_refl []
  going _ mem := by cases mem
  stopped short := absurd short (Nat.lt_irrefl 0)
  unavailable _ := by simp
  answers _ given := by cases given; rfl

theorem stop (ply : Nat) (rest : List Nat) (m : String) :
    Asked (ply :: rest) [(ply, .error (.unavailable m))] (.error m) where
  leading := by simp
  going _ mem := by cases mem
  stopped _ := ⟨_, rfl, m, rfl⟩
  unavailable m' := by simp [eq_comm]
  answers _ given := by cases given

/-- A reply that does not stop the asking comes before what the rest of the asking gives. -/
theorem cons {ply : Nat} {rest : List Nat} {r : Reply} {answered : List (Nat × Reply)}
    {result : Except String Evaluations} (going : ∀ m, r ≠ .error (.unavailable m))
    (asked : Asked rest answered result) :
    Asked (ply :: rest) ((ply, r) :: answered) (result.map ((ply, r.toOption) :: ·)) := by
  rcases List.eq_nil_or_concat' answered with rfl | ⟨front, last, rfl⟩
  · have nothing : ∀ m, result ≠ .error m := fun m failed => by
      simpa using (asked.unavailable m).mp failed
    refine ⟨⟨by simp, by simp, fun short => ?_⟩, fun m => ?_, fun answers given => ?_⟩
    · exact absurd (asked.stopped (by simpa using short)) (by simp)
    · rcases result with m' | answers'
      · exact absurd rfl (nothing m')
      · simp [Except.map, going]
    · rcases result with m' | answers'
      · exact absurd rfl (nothing m')
      · cases given
        simp [asked.answers answers' rfl]
  · have last_eq : ((ply, r) :: (front ++ [last])).getLast? = (front ++ [last]).getLast? := by
      rw [← List.cons_append, List.getLast?_concat, List.getLast?_concat]
    refine ⟨⟨by simpa using asked.leading, fun a mem m => ?_, fun short => ?_⟩,
      fun m => ?_, fun answers given => ?_⟩
    · rw [List.dropLast_cons_of_ne_nil (by simp)] at mem
      rcases List.mem_cons.mp mem with rfl | earlier
      · exact going m
      · exact asked.going a earlier m
    · rw [last_eq]
      exact asked.stopped (by simpa using short)
    · rw [last_eq, ← asked.unavailable m]
      rcases result with m' | answers' <;> simp [Except.map]
    · rcases result with m' | answers'
      · cases given
      · cases given
        simp [asked.answers answers' rfl]

variable {plies : List Nat} {answered : List (Nat × Reply)} {result : Except String Evaluations}

/-- A reply that the engine is unavailable is the last one. -/
theorem getLast?_of_unavailable (asked : Asked plies answered result) {a : Nat × Reply}
    {m : String} (mem : a ∈ answered) (stops : a.2 = .error (.unavailable m)) :
    answered.getLast? = some a := by
  rcases List.eq_nil_or_concat' answered with rfl | ⟨front, last, rfl⟩
  · cases mem
  rcases List.mem_append.mp mem with earlier | final
  · exact absurd stops (asked.going a (by simpa using earlier) m)
  · rw [List.mem_singleton.mp final]
    simp

/-- Asking that gives answers asked about every ply, and never heard the engine was unavailable. -/
theorem complete {answers : Evaluations} (asked : Asked plies answered (.ok answers)) :
    answered.map Prod.fst = plies ∧ ∀ a ∈ answered, ∀ m, a.2 ≠ .error (.unavailable m) := by
  have never : ∀ a ∈ answered, ∀ m, a.2 ≠ .error (.unavailable m) := fun a mem m stops => by
    have failed := (asked.unavailable m).mpr ⟨a, asked.getLast?_of_unavailable mem stops, stops⟩
    cases failed
  refine ⟨asked.leading.eq_of_length (le_antisymm asked.leading.length_le ?_), never⟩
  rw [List.length_map]
  by_contra short
  obtain ⟨a, last, m, stops⟩ := asked.stopped (Nat.lt_of_not_le short)
  exact never a (List.mem_of_getLast? last) m stops

end Asked

/-- Asking about a ply whose reply is that the engine is unavailable stops there. -/
theorem askEach_run_of_unavailable {e : Evaluator σ} {g : Pgn.Game} {movetime lines : Int}
    {ply : Nat} {rest : List Nat} {s s' : σ} {m : String}
    (reply : (e.analyse (g.fens.getD ply "") movetime lines).run s =
      (.error (.unavailable m), s')) :
    (askEach e g movetime lines (ply :: rest)).run s = (.error m, s') := by
  simp only [askEach, stateM_run_bind, reply]
  rfl

/-- Asking about a ply with any other reply goes on with the rest from the evaluator's new state. -/
theorem askEach_run_of_answer {e : Evaluator σ} {g : Pgn.Game} {movetime lines : Int}
    {ply : Nat} {rest : List Nat} {s s' : σ} {r : Reply} (going : ∀ m, r ≠ .error (.unavailable m))
    (reply : (e.analyse (g.fens.getD ply "") movetime lines).run s = (r, s')) :
    (askEach e g movetime lines (ply :: rest)).run s =
      (((askEach e g movetime lines rest).run s').1.map ((ply, r.toOption) :: ·),
        ((askEach e g movetime lines rest).run s').2) := by
  rcases r with (m | m) | r
  · simp only [askEach, stateM_run_bind, reply]
    rfl
  · exact absurd rfl (going m)
  · simp only [askEach, stateM_run_bind, reply]
    rfl

/-- Asking with the recording evaluator gives what asking with the evaluator gives, from the same
states, and logs the request of each ply asked with its reply, in turn. -/
theorem askEach_recorded (e : Evaluator σ) (g : Pgn.Game) (movetime lines : Int)
    (plies : List Nat) (s : σ) (log : List (Request × Reply)) :
    ∃ answered, (askEach e.recorded g movetime lines plies).run (s, log) =
        (((askEach e g movetime lines plies).run s).1, ((askEach e g movetime lines plies).run s).2,
          log ++ answered.map fun a => ((g.fens.getD a.1 "", movetime, lines), a.2)) ∧
      Asked plies answered ((askEach e g movetime lines plies).run s).1 := by
  induction plies generalizing s log with
  | nil => exact ⟨[], by rw [List.map_nil, List.append_nil]; rfl, Asked.nil⟩
  | cons ply rest induction =>
    rcases reply : (e.analyse (g.fens.getD ply "") movetime lines).run s with ⟨r, s'⟩
    have logged := e.recorded_run reply log
    by_cases stops : ∃ m, r = .error (.unavailable m)
    · obtain ⟨m, rfl⟩ := stops
      refine ⟨[(ply, .error (.unavailable m))], ?_, ?_⟩
      · rw [askEach_run_of_unavailable logged, askEach_run_of_unavailable reply]
        rfl
      · rw [askEach_run_of_unavailable reply]
        exact Asked.stop ply rest m
    · have going : ∀ m, r ≠ .error (.unavailable m) := fun m same => stops ⟨m, same⟩
      obtain ⟨answered, run, asked⟩ :=
        induction s' (log ++ [((g.fens.getD ply "", movetime, lines), r)])
      refine ⟨(ply, r) :: answered, ?_, ?_⟩
      · rw [askEach_run_of_answer going logged, askEach_run_of_answer going reply, run]
        simp
      · rw [askEach_run_of_answer going reply]
        exact asked.cons going

/-! ## Replies read back -/

/-- A reply that does not stop the asking carries no evaluation exactly when its position failed. -/
theorem toOption_eq_none_iff {r : Reply} (going : ∀ m, r ≠ .error (.unavailable m)) :
    r.toOption = none ↔ ∃ m, r = .error (.failed m) := by
  rcases r with (m | m) | r
  · simp [Except.toOption]
  · exact absurd rfl (going m)
  · simp [Except.toOption]

/-- Among replies to distinct plies, a ply's reply is the one it was given. -/
theorem lookup_of_mem {answered : List (Nat × Reply)} (distinct : (answered.map Prod.fst).Nodup)
    {ply : Nat} {r : Reply} (mem : (ply, r) ∈ answered) : answered.lookup ply = some r := by
  induction answered with
  | nil => cases mem
  | cons a rest induction =>
    obtain ⟨k, r'⟩ := a
    rw [List.map_cons, List.nodup_cons] at distinct
    rcases List.mem_cons.mp mem with same | later
    · cases same
      simp
    · have differ : (ply == k) = false := beq_false_of_ne fun same => by
        subst same
        have listed : (ply, r).1 ∈ rest.map Prod.fst := List.mem_map_of_mem later
        exact distinct.1 listed
      rw [List.lookup_cons, differ]
      exact induction distinct.2 later

namespace Asked

variable {plies : List Nat} {answered : List (Nat × Reply)} {answers : Evaluations}

/-- Every answer is empty exactly when every request failed. -/
theorem allFailed_iff (asked : Asked plies answered (.ok answers)) :
    (answers.filter fun a => a.2.isNone).length = plies.length ↔
      ∀ a ∈ answered, ∃ m, a.2 = .error (.failed m) := by
  obtain ⟨keys, never⟩ := asked.complete
  rw [asked.answers answers rfl, ← keys, List.length_map,
    ← List.length_map (f := fun a : Nat × Reply => (a.1, a.2.toOption)),
    List.length_filter_eq_length_iff]
  simp only [List.mem_map, forall_exists_index, and_imp, forall_apply_eq_imp_iff₂,
    Option.isNone_iff_eq_none]
  exact forall₂_congr fun a mem => toOption_eq_none_iff (never a mem)

end Asked

/-! ## Gathering -/

/-- What a gathering gives, with the replies of the evaluator asked when there is one
(`asking`). -/
structure Gathered (g : Pgn.Game) (asking : Bool) (supplied : Evaluations)
    (answered : List (Nat × Reply)) (result : Except Failure Evaluations) : Prop where
  /-- With an evaluator, the plies left are asked about in turn until the engine is found
  unavailable; without one nothing is asked. -/
  inTurn : InTurn (if asking then requestedPlies g supplied else []) answered
  /-- Each ply is asked about once, in ascending order. -/
  ascending : (answered.map Prod.fst).Pairwise (· < ·)
  /-- Success lists every ply whose position does not end the game, in order, with its supplied
  evaluation when that is of its position, and otherwise the evaluator's answer if any. -/
  entries : ∀ es, result = .ok es → es = (livePlies g).map fun ply =>
    (ply, (suppliedAt g supplied ply).or ((answered.lookup ply).bind Except.toOption))
  /-- A ply is left empty exactly when its request failed or, with no evaluator, when nothing
  of its position was supplied. -/
  unevaluated : ∀ es : Evaluations, result = .ok es → ∀ ply ∈ livePlies g,
    (es.at? ply = none ↔ (asking ∧ ∃ m, (ply, .error (.failed m)) ∈ answered) ∨
      (asking = false ∧ suppliedAt g supplied ply = none))
  /-- A gathering fails exactly when the engine is unavailable, when with no evaluator nothing
  supplied is of its position, or when there were plies to ask about and every request
  failed. -/
  failed : ∀ f, result = .error f ↔
    (∃ ply m, (ply, .error (.unavailable m)) ∈ answered ∧ f = .unavailable m) ∨
    (asking = false ∧ (∀ ply ∈ livePlies g, suppliedAt g supplied ply = none) ∧
      f = .noEvaluations) ∨
    (asking ∧ requestedPlies g supplied ≠ [] ∧
      answered.map Prod.fst = requestedPlies g supplied ∧
      (∀ a ∈ answered, ∃ m, a.2 = .error (.failed m)) ∧
      f = .allFailed (requestedPlies g supplied).length)

namespace Gathered

variable {g : Pgn.Game} {supplied : Evaluations}

/-- Asking nothing, a gathering that has a supplied evaluation gives the supplied ones: with an
evaluator only when every live ply has its own. -/
theorem of_unasked {asking : Bool}
    (quiet : asking = false ∨ requestedPlies g supplied = [])
    (something : ¬∀ ply ∈ livePlies g, suppliedAt g supplied ply = none) :
    Gathered g asking supplied []
      (.ok ((livePlies g).map fun ply => (ply, suppliedAt g supplied ply))) where
  inTurn := by
    rcases quiet with rfl | none_left
    · exact Asked.nil.toInTurn
    · rw [none_left, ite_self]
      exact Asked.nil.toInTurn
  ascending := List.Pairwise.nil
  entries es given := by
    cases given
    simp
  unevaluated es given ply live := by
    cases given
    rw [Evaluations.at?_map, if_pos live]
    rcases quiet with rfl | none_left
    · simp
    · have found := requestedPlies_eq_nil.mp none_left ply live
      rw [Option.isSome_iff_ne_none] at found
      simp [found]
  failed f := by
    have none_asked : ¬requestedPlies g supplied ≠ [] ∨ asking = false := by
      rcases quiet with rfl | none_left
      · exact .inr rfl
      · exact .inl (not_not.mpr none_left)
    simp only [reduceCtorEq, false_iff, List.not_mem_nil, false_and, exists_const, false_or,
      not_or, not_and]
    refine ⟨fun _ nothing => absurd nothing something, fun asked left => ?_⟩
    rcases none_asked with none_left | quiet
    · exact absurd left none_left
    · simp [quiet] at asked

/-- With no evaluator and nothing supplied of its position, a gathering finds no evaluation. -/
theorem of_nothing_supplied (nothing : ∀ ply ∈ livePlies g, suppliedAt g supplied ply = none) :
    Gathered g false supplied [] (.error .noEvaluations) where
  inTurn := Asked.nil.toInTurn
  ascending := List.Pairwise.nil
  entries _ given := by cases given
  unevaluated _ given := by cases given
  failed f := by
    simp only [Except.error.injEq, List.not_mem_nil, false_and, exists_const, Bool.false_eq_true,
      false_and, or_false, true_and, false_or]
    exact ⟨fun same => ⟨nothing, same.symm⟩, fun ⟨_, same⟩ => same.symm⟩

variable {answered : List (Nat × Reply)}

theorem of_asked_ascending (asked : InTurn (requestedPlies g supplied) answered) :
    (answered.map Prod.fst).Pairwise (· < ·) :=
  requestedPlies_ascending.sublist asked.leading.sublist

/-- An engine found unavailable fails the gathering with its message. -/
theorem of_unavailable {m : String}
    (asked : Asked (requestedPlies g supplied) answered (.error m)) :
    Gathered g true supplied answered (.error (.unavailable m)) where
  inTurn := asked.toInTurn
  ascending := of_asked_ascending asked.toInTurn
  entries _ given := by cases given
  unevaluated _ given := by cases given
  failed f := by
    obtain ⟨last, final, stops⟩ := (asked.unavailable m).mp rfl
    have mem := List.mem_of_getLast? final
    constructor
    · rintro ⟨⟩
      exact .inl ⟨last.1, m, stops ▸ mem, rfl⟩
    · rintro (⟨ply, m', mem', rfl⟩ | ⟨quiet, -⟩ | ⟨-, -, -, all, -⟩)
      · have same := asked.getLast?_of_unavailable mem' rfl
        rw [final, Option.some.injEq] at same
        subst same
        have message : m' = m := by simpa using stops
        rw [message]
      · cases quiet
      · obtain ⟨m', fails⟩ := all last mem
        rw [stops] at fails
        cases fails

/-- Every request failing fails the gathering, with the number of plies asked about. -/
theorem of_allFailed {answers : Evaluations} (left : requestedPlies g supplied ≠ [])
    (asked : Asked (requestedPlies g supplied) answered (.ok answers))
    (all : (answers.filter fun a => a.2.isNone).length = (requestedPlies g supplied).length) :
    Gathered g true supplied answered (.error (.allFailed (requestedPlies g supplied).length)) where
  inTurn := asked.toInTurn
  ascending := of_asked_ascending asked.toInTurn
  entries _ given := by cases given
  unevaluated _ given := by cases given
  failed f := by
    obtain ⟨keys, never⟩ := asked.complete
    constructor
    · rintro ⟨⟩
      exact .inr (.inr ⟨rfl, left, keys, asked.allFailed_iff.mp all, rfl⟩)
    · rintro (⟨ply, m, mem, -⟩ | ⟨quiet, -⟩ | ⟨-, -, -, -, rfl⟩)
      · exact absurd rfl (never _ mem m)
      · cases quiet
      · rfl

/-- Otherwise the gathering lists each live ply with its supplied evaluation or its answer. -/
theorem of_answers {answers : Evaluations}
    (asked : Asked (requestedPlies g supplied) answered (.ok answers))
    (some_answered : (answers.filter fun a => a.2.isNone).length ≠
      (requestedPlies g supplied).length) :
    Gathered g true supplied answered
      (.ok ((livePlies g).map fun ply =>
        (ply, (suppliedAt g supplied ply).or (answers.at? ply)))) where
  inTurn := asked.toInTurn
  ascending := of_asked_ascending asked.toInTurn
  entries es given := by
    cases given
    simp only [asked.answers answers rfl, Evaluations.at?_replies]
  unevaluated es given ply live := by
    cases given
    obtain ⟨keys, never⟩ := asked.complete
    have distinct : (answered.map Prod.fst).Nodup :=
      (of_asked_ascending asked.toInTurn).imp (fun less => Nat.ne_of_lt less)
    rw [Evaluations.at?_map, if_pos live, asked.answers answers rfl, Evaluations.at?_replies]
    simp only [true_and, Bool.true_eq_false, false_and, or_false]
    rcases given : suppliedAt g supplied ply with _ | e
    · obtain ⟨⟨ply', r⟩, mem, rfl⟩ :=
        List.mem_map.mp (keys ▸ mem_requestedPlies.mpr ⟨live, given⟩ :
          ply ∈ answered.map Prod.fst)
      rw [Option.none_or, lookup_of_mem distinct mem, Option.bind_some,
        toOption_eq_none_iff (never _ mem)]
      constructor
      · rintro ⟨m, rfl⟩
        exact ⟨m, mem⟩
      · rintro ⟨m, failed⟩
        have same := lookup_of_mem distinct failed
        rw [lookup_of_mem distinct mem, Option.some.injEq] at same
        exact ⟨m, same⟩
    · simp only [Option.some_or, reduceCtorEq, false_iff, not_exists]
      intro m mem
      have asked_ply : ply ∈ requestedPlies g supplied :=
        keys ▸ List.mem_map_of_mem (f := Prod.fst) mem
      rw [mem_requestedPlies, given] at asked_ply
      cases asked_ply.2
  failed f := by
    obtain ⟨keys, never⟩ := asked.complete
    simp only [reduceCtorEq, false_iff, not_or, not_exists, not_and]
    refine ⟨fun ply m mem => absurd rfl (never _ mem m), fun quiet => (by cases quiet),
      fun _ _ _ all => absurd (asked.allFailed_iff.mpr all) some_answered⟩

end Gathered

/-! ## Runs of a gathering -/

section Runs

variable {τ : Type} {g : Pgn.Game} {c : Config} {supplied : Evaluations} {t : τ}

theorem gatherEvaluations_run_of_supplied (ev : Option (Evaluator τ))
    (none_left : requestedPlies g supplied = []) :
    (gatherEvaluations g c ev supplied).run t =
      (.ok ((livePlies g).map fun ply => (ply, suppliedAt g supplied ply)), t) := by
  simp only [gatherEvaluations, none_left, List.isEmpty_nil, ↓reduceIte]
  rw [supplied_of_requestedPlies_eq_nil none_left]
  rfl

theorem gatherEvaluations_run_of_nothing (left : requestedPlies g supplied ≠ [])
    (nothing : ∀ ply ∈ livePlies g, suppliedAt g supplied ply = none) :
    (gatherEvaluations g c (none : Option (Evaluator τ)) supplied).run t =
      (.error .noEvaluations, t) := by
  have waiting : (requestedPlies g supplied).isEmpty = false := by simpa using left
  simp only [gatherEvaluations, waiting, supplied_eq_nil.mpr nothing, List.isEmpty_nil,
    Bool.false_eq_true, ↓reduceIte]
  rfl

theorem gatherEvaluations_run_of_unasked (left : requestedPlies g supplied ≠ [])
    (something : ¬∀ ply ∈ livePlies g, suppliedAt g supplied ply = none) :
    (gatherEvaluations g c (none : Option (Evaluator τ)) supplied).run t =
      (.ok ((livePlies g).map fun ply => (ply, suppliedAt g supplied ply)), t) := by
  have waiting : (requestedPlies g supplied).isEmpty = false := by simpa using left
  have known : ((livePlies g).filterMap fun ply =>
      (suppliedAt g supplied ply).map fun e => (ply, some e)).isEmpty = false := by
    simpa [List.isEmpty_iff] using mt supplied_eq_nil.mp something
  simp only [gatherEvaluations, waiting, known, Bool.false_eq_true, ↓reduceIte]
  rfl

variable {e : Evaluator τ} {t' : τ}

theorem gatherEvaluations_run_of_unavailable {m : String} (left : requestedPlies g supplied ≠ [])
    (asking : (askEach e g c.movetimeMs (searchLines c) (requestedPlies g supplied)).run t =
      (.error m, t')) :
    (gatherEvaluations g c (some e) supplied).run t = (.error (.unavailable m), t') := by
  have waiting : (requestedPlies g supplied).isEmpty = false := by simpa using left
  simp only [gatherEvaluations, waiting, Bool.false_eq_true, ↓reduceIte, stateM_run_bind, asking]
  rfl

theorem gatherEvaluations_run_of_allFailed {answers : Evaluations}
    (left : requestedPlies g supplied ≠ [])
    (asking : (askEach e g c.movetimeMs (searchLines c) (requestedPlies g supplied)).run t =
      (.ok answers, t'))
    (all : (answers.filter fun a => a.2.isNone).length = (requestedPlies g supplied).length) :
    (gatherEvaluations g c (some e) supplied).run t =
      (.error (.allFailed (requestedPlies g supplied).length), t') := by
  have waiting : (requestedPlies g supplied).isEmpty = false := by simpa using left
  simp only [gatherEvaluations, waiting, Bool.false_eq_true, ↓reduceIte, stateM_run_bind, asking,
    all, beq_self_eq_true]
  rfl

theorem gatherEvaluations_run_of_answers {answers : Evaluations}
    (left : requestedPlies g supplied ≠ [])
    (asking : (askEach e g c.movetimeMs (searchLines c) (requestedPlies g supplied)).run t =
      (.ok answers, t'))
    (some_answered : (answers.filter fun a => a.2.isNone).length ≠
      (requestedPlies g supplied).length) :
    (gatherEvaluations g c (some e) supplied).run t =
      (.ok ((livePlies g).map fun ply => (ply, (suppliedAt g supplied ply).or (answers.at? ply))),
        t') := by
  have waiting : (requestedPlies g supplied).isEmpty = false := by simpa using left
  simp only [gatherEvaluations, waiting, Bool.false_eq_true, ↓reduceIte, stateM_run_bind, asking,
    beq_false_of_ne some_answered]
  rfl

end Runs

/-! ## The law -/

/-- Gathering the evaluations of a game with a move, observed through an evaluator that logs its
requests: the log records the plies asked about with the replies, each request the ply's FEN, the
time budget and the number of lines, and the gathering gives what it gives with the evaluator
itself, as described by `Gathered`. -/
theorem gatherEvaluations_asks_in_turn {g : Pgn.Game} (moved : 0 < g.plyCount) (c : Config)
    (ev : Option (Evaluator σ)) (supplied : Evaluations) (s : σ) :
    ∃ answered : List (Nat × Reply),
      (gatherEvaluations g c (ev.map Evaluator.recorded) supplied).run (s, []) =
        (((gatherEvaluations g c ev supplied).run s).1, ((gatherEvaluations g c ev supplied).run s).2,
          answered.map fun a => ((g.fens.getD a.1 "", c.movetimeMs, searchLines c), a.2)) ∧
      Gathered g ev.isSome supplied answered ((gatherEvaluations g c ev supplied).run s).1 := by
  by_cases none_left : requestedPlies g supplied = []
  · have something : ¬∀ ply ∈ livePlies g, suppliedAt g supplied ply = none := fun nothing => by
      simpa [nothing 0 (zero_mem_livePlies moved)] using
        requestedPlies_eq_nil.mp none_left 0 (zero_mem_livePlies moved)
    rw [gatherEvaluations_run_of_supplied ev none_left]
    exact ⟨[], gatherEvaluations_run_of_supplied _ none_left,
      Gathered.of_unasked (.inr none_left) something⟩
  rcases ev with _ | e
  · by_cases nothing : ∀ ply ∈ livePlies g, suppliedAt g supplied ply = none
    · rw [gatherEvaluations_run_of_nothing none_left nothing]
      exact ⟨[], gatherEvaluations_run_of_nothing none_left nothing,
        Gathered.of_nothing_supplied nothing⟩
    · rw [gatherEvaluations_run_of_unasked none_left nothing]
      exact ⟨[], gatherEvaluations_run_of_unasked none_left nothing,
        Gathered.of_unasked (.inl rfl) nothing⟩
  · obtain ⟨answered, recorded, asked⟩ :=
      askEach_recorded e g c.movetimeMs (searchLines c) (requestedPlies g supplied) s []
    rcases plain : (askEach e g c.movetimeMs (searchLines c) (requestedPlies g supplied)).run s
      with ⟨m | answers, s'⟩ <;> rw [plain, List.nil_append] at recorded <;> rw [plain] at asked
    · rw [gatherEvaluations_run_of_unavailable none_left plain]
      exact ⟨answered, gatherEvaluations_run_of_unavailable none_left recorded,
        Gathered.of_unavailable asked⟩
    · by_cases all : (answers.filter fun a => a.2.isNone).length =
          (requestedPlies g supplied).length
      · rw [gatherEvaluations_run_of_allFailed none_left plain all]
        exact ⟨answered, gatherEvaluations_run_of_allFailed none_left recorded all,
          Gathered.of_allFailed none_left asked all⟩
      · rw [gatherEvaluations_run_of_answers none_left plain all]
        exact ⟨answered, gatherEvaluations_run_of_answers none_left recorded all,
          Gathered.of_answers asked all⟩

/-- The scholar's mate as a replayed game: its seven moves played from the starting position, the
last of them mate. -/
def scholarsMateGame : Pgn.Game :=
  let moves : List Chess.Move :=
    [⟨⟨12, by decide⟩, ⟨28, by decide⟩, none⟩, ⟨⟨52, by decide⟩, ⟨36, by decide⟩, none⟩,
      ⟨⟨5, by decide⟩, ⟨26, by decide⟩, none⟩, ⟨⟨57, by decide⟩, ⟨42, by decide⟩, none⟩,
      ⟨⟨3, by decide⟩, ⟨39, by decide⟩, none⟩, ⟨⟨62, by decide⟩, ⟨45, by decide⟩, none⟩,
      ⟨⟨39, by decide⟩, ⟨53, by decide⟩, none⟩]
  let start := (Chess.Position.ofFen Chess.startingFen).toOption.getD default
  { tags := [], positions := (Pgn.replay start moves).1, moves := moves,
    sans := (Pgn.replay start moves).2, fens := (Pgn.replay start moves).1.map Chess.Position.fen,
    finished := true }

/-- An evaluator that fails every position. -/
def failingEvaluator : Evaluator Unit where
  analyse _ _ _ := pure (.error (.failed "search failed"))

/-- With evaluations supplied for the last two live plies of the scholar's mate, a failing
evaluator is asked about the first five in turn. -/
theorem gatherEvaluations_asks_failing_evaluator :
    0 < scholarsMateGame.plyCount ∧
      ∃ answered : List (Nat × Reply),
        (gatherEvaluations scholarsMateGame {} ((some failingEvaluator).map Evaluator.recorded)
            scholarsMateEvaluations).run ((), []) =
          (((gatherEvaluations scholarsMateGame {} (some failingEvaluator)
              scholarsMateEvaluations).run ()).1,
            ((gatherEvaluations scholarsMateGame {} (some failingEvaluator)
              scholarsMateEvaluations).run ()).2,
            answered.map fun a =>
              ((scholarsMateGame.fens.getD a.1 "", ({} : Config).movetimeMs, searchLines {}),
                a.2)) ∧
        Gathered scholarsMateGame (some failingEvaluator).isSome scholarsMateEvaluations answered
          ((gatherEvaluations scholarsMateGame {} (some failingEvaluator)
            scholarsMateEvaluations).run ()).1 :=
  ⟨by decide, gatherEvaluations_asks_in_turn (by decide) {} (some failingEvaluator)
    scholarsMateEvaluations ()⟩

end Analysis
end Tactician
