import TextGrammar.Callback
import TextGrammar.Proofs.Grammar.Iteration
import TextGrammar.Proofs.Grammar.Relation
import TextGrammar.Proofs.Leaf.Numbers
import TextGrammar.Proofs.Text.LongestStart

/-!
# Runs of characters

The loops that read a run of blanks stop where a repetition stops that reads the blanks one at a
time, and give the same text. It does not matter which characters are blank: the same holds of
every class of characters and the loops over it.
-/

namespace TextGrammar

open Text

/-- The relation between runs with the same answer. What happens before it may differ. -/
def sameAnswers : RunRelation where
  Holds run run' := run.answer = run'.answer
  pure _ := rfl
  emit _ := rfl
  Admits _ _ := True
  consult _ _ _ := rfl
  endless _ := rfl
  bind {_ _ run run' _ _} h hnext := by
    cases hanswer : run.answer with
    | error e => rw [Run.bind_of_error hanswer, Run.bind_of_error (h.symm.trans hanswer)]
    | ok a =>
      rw [Run.bind_of_ok hanswer, Run.bind_of_ok (h.symm.trans hanswer)]
      exact hnext a hanswer

/-- The longest start of the rest that has only characters of a class. What comes behind it is a
character of another class or the end. -/
structure Cursor.HasRun (accepts : Char → Bool) (s : Cursor) (start : List Char) : Prop extends
    IsLongestStart (fun cs => ∀ c ∈ cs, accepts c = true) start s.rest where
  stops : ∀ c, (s.skip start.length).next? = some c → accepts c = false

/-- The leading characters of a class are a run of the class. -/
theorem Cursor.hasRun_takeWhile (accepts : Char → Bool) (s : Cursor) :
    s.HasRun accepts (s.rest.takeWhile accepts) where
  isPrefix := List.takeWhile_prefix accepts
  isKind _ hc := List.mem_takeWhile_imp hc
  length_le := by
    rintro other ⟨later, hother⟩ hall
    rw [← hother, List.takeWhile_append_of_pos hall, List.length_append]
    exact Nat.le_add_right _ _
  stops c hnext := by
    have hrest : (s.skip (s.rest.takeWhile accepts).length).rest = s.rest.dropWhile accepts :=
      rest_skip_length List.takeWhile_append_dropWhile.symm
    have hhead := List.head?_dropWhile_not accepts s.rest
    rw [next?_eq_head?, hrest] at hnext
    rw [hnext] at hhead
    exact hhead

namespace Parser

variable {accepts : Char → Bool} {s : Cursor}

/-! ### Repetitions of a class -/

/-- A repetition of a class of characters reads a run of them. -/
theorem many_charOf (accepts : Char → Bool) (expected : String) (s : Cursor) :
    many (map Value.ofChar (charOf accepts expected)) s =
      .matched (s.matchTo ((s.rest.takeWhile accepts).map .ofChar)
        (s.skip (s.rest.takeWhile accepts).length)) := by
  rw [many, repeatFrom_charOf expected _ (attemptsIn_enough s), Run.pure_bind]

/-- So does one that must have a match, if there is a character to read. -/
theorem many1_charOf (expected : String) (h : s.rest.takeWhile accepts ≠ []) :
    many1 (map Value.ofChar (charOf accepts expected)) s =
      many (map Value.ofChar (charOf accepts expected)) s := by
  cases hrest : s.rest with
  | nil => simp [hrest] at h
  | cons c cs =>
    have hc := Cursor.accepts_of_rest hrest h
    have hlater := many_charOf accepts expected (s.skip 1)
    rw [Cursor.rest_skip_one hrest, Cursor.skip_skip, Nat.add_comm 1] at hlater
    rw [many1_eq_ifMatched, map_charOf_of_accepts _ _ hrest hc, many_charOf, hrest,
      List.takeWhile_cons_of_pos hc, List.map_cons, List.length_cons]
    change (many _ (s.skip 1)).ifMatched _ = _
    rw [hlater]
    rfl

end Parser

/-! ### Joining what a repetition reads -/

/-- Characters taken as values are texts of one character. -/
theorem textOf_mapM (cs : List Char) :
    (cs.map Value.ofChar).mapM Callback.textOf = .ok (cs.map String.singleton) := by
  induction cs with
  | nil => rfl
  | cons c cs ih =>
    rw [List.map_cons, List.mapM_cons, ih]
    rfl

/-- The characters that are read one at a time make up the text. -/
theorem joined_ofChar (cs : List Char) :
    Callback.joined (.list (cs.map .ofChar)) = .ok (.text (String.ofList cs)) := by
  have hjoin : String.join (cs.map String.singleton) = String.ofList cs := by
    rw [← String.toList_inj, String.toList_join, String.toList_ofList, List.flatMap_map]
    simp
  have hitems : Callback.items (.list (cs.map .ofChar)) = .ok (cs.map .ofChar) := rfl
  rw [← hjoin, Callback.joined, hitems]
  change ((cs.map Value.ofChar).mapM Callback.textOf).bind _ = _
  rw [textOf_mapM]
  rfl

variable {defs : Definitions} {limit : Nat} {one : Grammar} {accepts : Char → Bool}
  {expected : String} {s : Cursor}

/-- A grammar without parts is read by its own parser. -/
theorem read_leaf (l : Leaf) : read defs limit (.grammar (.leaf l)) = l.parser := by
  rw [read_grammar, Grammar.parserWithin_eq, Grammar.parser]

/-- Two parsers of runs of characters, of which one must have a character, answer at a cursor like
the repetitions of a grammar whose values are joined. They read a start of the rest; where it is
empty, the one fails like the grammar. -/
structure ReadsRun (defs : Definitions) (limit : Nat) (one : Grammar) (expected : String)
    (run someRun : Parser Value) (s : Cursor) (start : List Char) : Prop where
  many : (read defs limit (.grammar (.many one)) s).answer =
    .ok (.matched (s.matchTo (.list (start.map .ofChar)) (s.skip start.length)))
  run_eq : (run s).answer =
    (read defs limit (.grammar (.map (.many one) Callback.joined)) s).answer
  run_matched : (run s).answer =
    .ok (.matched (s.matchTo (.text (.ofList start)) (s.skip start.length)))
  someRun_eq : (someRun s).answer =
    (read defs limit (.grammar (.map (.many1 one) Callback.joined)) s).answer
  someRun_matched : start ≠ [] → (someRun s).answer = (run s).answer
  someRun_failed : start = [] →
    (someRun s).answer = .ok (.failed (s.unexpected expected)) ∧
      (read defs limit (.grammar one) s).answer = .ok (.failed (s.unexpected expected))

/-- A repetition whose list of characters is joined answers with their text. -/
theorem read_joined {g : Grammar} {cs : List Char} {t : Cursor}
    (h : (g.parserWithin defs limit s).answer =
      .ok (.matched (s.matchTo (.list (cs.map .ofChar)) t))) :
    (read defs limit (.grammar (.map g Callback.joined)) s).answer =
      .ok (.matched (s.matchTo (.text (.ofList cs)) t)) := by
  rw [read_grammar, Grammar.parserWithin_map, Parser.mapRun, Run.ifMatched_of_matched h]
  simp only [Cursor.matchTo_value, joined_ofChar]
  rfl

/-- Joining texts passes a failure on. -/
theorem read_joined_of_failed {g : Grammar} {f : Failure}
    (h : (g.parserWithin defs limit s).answer = .ok (.failed f)) :
    (read defs limit (.grammar (.map g Callback.joined)) s).answer = .ok (.failed f) := by
  rw [read_grammar, Grammar.parserWithin_map, Parser.mapRun, Run.ifMatched_of_failed h]

section Class

variable (hone : sameAnswers.Relates (one.parserWithin defs limit)
  (Parser.map .ofChar (Parser.charOf accepts expected)))

include hone

/-- A repetition of a grammar that answers like a class reads a run of its characters. -/
theorem parserWithin_many_of_class (s : Cursor) :
    ((Grammar.many one).parserWithin defs limit s).answer = .ok (.matched (s.matchTo
      (.list ((s.rest.takeWhile accepts).map .ofChar))
      (s.skip (s.rest.takeWhile accepts).length))) := by
  have hsame := Parser.related_map (Parser.related_many hone) Value.list s
  rw [Grammar.parserWithin_many, hsame, Parser.map, Parser.many_charOf]
  rfl

/-- A repetition of one character of a class reads the run of them. -/
theorem parserWithin_many1_of_class (h : s.rest.takeWhile accepts ≠ []) :
    ((Grammar.many1 one).parserWithin defs limit s).answer = .ok (.matched (s.matchTo
      (.list ((s.rest.takeWhile accepts).map .ofChar))
      (s.skip (s.rest.takeWhile accepts).length))) := by
  have hsame := Parser.related_map (Parser.related_many1 hone) Value.list s
  rw [Grammar.parserWithin_many1, hsame, Parser.map, Parser.many1_charOf expected h,
    Parser.many_charOf]
  rfl

/-- One character of a class fails where the run of them is empty. -/
theorem parserWithin_of_rejects (h : s.rest.takeWhile accepts = []) :
    (one.parserWithin defs limit s).answer = .ok (.failed (s.unexpected expected)) := by
  rw [hone s, Parser.map_of_failed _ (Parser.charOf_of_takeWhile_eq_nil h)]
  rfl

/-- A repetition of one character of a class fails like a single one where the run is empty. -/
theorem parserWithin_many1_of_rejects (h : s.rest.takeWhile accepts = []) :
    ((Grammar.many1 one).parserWithin defs limit s).answer =
      .ok (.failed (s.unexpected expected)) := by
  have hsame := Parser.related_map (Parser.related_many1 hone) Value.list s
  have hfirst : Parser.map Value.ofChar (Parser.charOf accepts expected) s = _ :=
    Parser.map_of_failed Value.ofChar (Parser.charOf_of_takeWhile_eq_nil h)
  rw [Grammar.parserWithin_many1, hsame, Parser.map_of_failed _ (Parser.many1_of_failed hfirst)]
  rfl

/-- The loops over a class of characters agree with the repetitions of a grammar that answers like
the class. -/
theorem readsRun_of_class (s : Cursor) :
    ReadsRun defs limit one expected (Parser.map .text (Parser.runOf accepts))
      (Parser.map .text (Parser.someRunOf accepts expected)) s (s.rest.takeWhile accepts) := by
  have hrun : (Parser.map Value.text (Parser.runOf accepts) s).answer = .ok (.matched (s.matchTo
      (.text (.ofList (s.rest.takeWhile accepts)))
      (s.skip (s.rest.takeWhile accepts).length))) := by
    rw [Parser.map_of_matched _ (Parser.runOf_eq accepts s)]
    rfl
  have hsome (h : s.rest.takeWhile accepts ≠ []) :
      (Parser.map Value.text (Parser.someRunOf accepts expected) s).answer =
        (Parser.map Value.text (Parser.runOf accepts) s).answer := by
    rw [Parser.map, Parser.someRunOf_of_ne_nil h, Parser.map]
  have hnone (h : s.rest.takeWhile accepts = []) :
      (Parser.map Value.text (Parser.someRunOf accepts expected) s).answer =
        .ok (.failed (s.unexpected expected)) := by
    rw [Parser.map_of_failed _ (Parser.someRunOf_of_nil h)]
    rfl
  have hmany := parserWithin_many_of_class hone s
  refine ⟨?_, ?_, hrun, ?_, hsome, ?_⟩
  · rw [read_grammar, hmany]
  · rw [hrun, read_joined hmany]
  · by_cases hempty : s.rest.takeWhile accepts = []
    · rw [hnone hempty, read_joined_of_failed (parserWithin_many1_of_rejects hone hempty)]
    · rw [hsome hempty, hrun, read_joined (parserWithin_many1_of_class hone hempty)]
  · intro hempty
    rw [read_grammar]
    exact ⟨hnone hempty, parserWithin_of_rejects hone hempty⟩

end Class

/-- The loops over blanks agree with repetitions. They read the longest start of the rest that is
blank. The one that must have a blank fails exactly where there is none, like the grammar of single
blanks. Any other class of characters could take the place of the blanks, and a repetition of
the class reads the longest start that has only characters of the class. -/
theorem blanks_read_like_repetitions (defs : Definitions) (limit : Nat) (s : Cursor) :
    (∃ start, s.HasRun isBlank start ∧
      ReadsRun defs limit (.leaf .blank) "a whitespace" (read defs limit (.grammar (.leaf .blanks)))
        (read defs limit (.grammar (.leaf .someBlanks))) s start) ∧
    ∀ accepts expected, ∃ start, s.HasRun accepts start ∧
      ReadsRun defs limit (.satisfy (fun c => .ok (accepts c)) expected) expected
        (Parser.map .text (Parser.runOf accepts))
        (Parser.map .text (Parser.someRunOf accepts expected)) s start := by
  constructor
  · refine ⟨_, s.hasRun_takeWhile isBlank, ?_⟩
    have hblanks : read defs limit (.grammar (.leaf .blanks)) =
        Parser.map .text (Parser.runOf isBlank) := by
      rw [read_leaf, Leaf.parser, Parser.blanks_eq_runOf]
    have hsomeBlanks : read defs limit (.grammar (.leaf .someBlanks)) =
        Parser.map .text (Parser.someRunOf isBlank "a whitespace") := by
      rw [read_leaf, Leaf.parser, Parser.someBlanks_eq_someRunOf]
    rw [hblanks, hsomeBlanks]
    refine readsRun_of_class (fun t => ?_) s
    rw [Grammar.parserWithin_eq]
    rfl
  · intro accepts expected
    refine ⟨_, s.hasRun_takeWhile accepts, readsRun_of_class ?_ s⟩
    rw [Grammar.parserWithin_eq]
    refine Parser.related_map (Parser.related_satisfy fun c => ?_) _
    rfl

end TextGrammar
