import TextGrammar.Fault
import TextGrammar.Proofs.Parser.Steps

/-!
# Nested sequences

The parts of a sequence may be sequences themselves. However they are nested, the parts are read
from left to right, each one where the one before it ended, until one of them does not match. So
sequences that are nested in different ways, but have the same parts, only differ in how the values
of the parts are put into tuples.
-/

namespace TextGrammar

/-- Parts in groups, which may be members of groups again. -/
inductive Nesting (π : Type) where
  | part (p : π)
  | group (members : List (Nesting π))

namespace Nesting

variable {π β : Type}

mutual

/-- What parts and groups are made into, from the inside out. -/
def fold (part : π → β) (group : List β → β) : Nesting π → β
  | .part p => part p
  | .group members => group (foldAll part group members)

/-- What some members of a group are made into. -/
def foldAll (part : π → β) (group : List β → β) : List (Nesting π) → List β
  | [] => []
  | n :: ns => n.fold part group :: foldAll part group ns

end

mutual

/-- The values of the parts in a value that is nested in the same way: the tuples of inner groups
are spliced into those around them. -/
def splice? : Nesting π → Value → Option (List Value)
  | .part _, value => some [value]
  | .group members, .tuple items => spliceAll? members items
  | .group _, _ => none

/-- The values of the parts in the items of a tuple, one item for each member of a group. -/
def spliceAll? : List (Nesting π) → List Value → Option (List Value)
  | [], [] => some []
  | n :: ns, item :: items =>
    match n.splice? item, spliceAll? ns items with
    | some first, some later => some (first ++ later)
    | _, _ => none
  | _, _ => none

end

/-- The parts from left to right. -/
def leaves (n : Nesting π) : List π := n.fold (fun p => [p]) List.flatten

/-- Every group has as many members as a sequence may have parts. -/
inductive HasSizes : Nesting π → Prop
  | part (p : π) : HasSizes (.part p)
  | group {members : List (Nesting π)} (hmin : minSequenceLength ≤ members.length)
      (hmax : members.length ≤ maxSequenceLength) (hmembers : ∀ n ∈ members, HasSizes n) :
      HasSizes (.group members)

/-- Induction over groups and their members. -/
theorem induction {motive : Nesting π → Prop} (part : ∀ p, motive (.part p))
    (group : ∀ members, (∀ n ∈ members, motive n) → motive (.group members)) (n : Nesting π) :
    motive n :=
  @Nesting.rec π motive (fun members => ∀ n ∈ members, motive n) part (fun _ ih => group _ ih)
    (by simp) (fun _ _ ih ihs => by simpa using ⟨ih, ihs⟩) n

/-- Folding a single part takes the part. -/
theorem fold_part (part : π → β) (group : List β → β) (p : π) :
    (Nesting.part p).fold part group = part p := by
  rw [fold]

/-- Folding a group folds its members first. -/
theorem fold_group (part : π → β) (group : List β → β) (members : List (Nesting π)) :
    (Nesting.group members).fold part group = group (members.map (fold part group)) := by
  have hall : foldAll part group members = members.map (fold part group) := by
    induction members with
    | nil => rw [foldAll, List.map_nil]
    | cons n ns ih => rw [foldAll, ih, List.map_cons]
  rw [fold, hall]

/-- A single part is its only leaf. -/
theorem leaves_part (p : π) : (Nesting.part p).leaves = [p] := fold_part _ _ p

/-- The leaves of a group are those of its members, in their order. -/
theorem leaves_group (members : List (Nesting π)) :
    (Nesting.group members).leaves = members.flatMap leaves := fold_group _ _ members

/-- What is spliced of several members is spliced one behind the other. -/
theorem spliceAll?_cons {n : Nesting π} {ns : List (Nesting π)} {item : Value}
    {items first later : List Value} (hfirst : n.splice? item = some first)
    (hlater : spliceAll? ns items = some later) :
    spliceAll? (n :: ns) (item :: items) = some (first ++ later) := by
  simp only [spliceAll?, hfirst, hlater]

/-- Reads the parts, with a sequence for each group. -/
def parser (parse : π → Parser Value) (n : Nesting π) : Parser Value :=
  n.fold parse fun parsers => Parser.map .tuple (Parser.sequence parsers)

end Nesting

/-! ### Runs that end alike -/

namespace Run

variable {α β α' β' : Type} {related : Match α → Match β → Prop}
  {related' : Match α' → Match β' → Prop} {run : Run (Outcome α)} {run' : Run (Outcome β)}

/-- The same happens in two runs, and they end alike: with one fault, with one failure, or with two
matches that are related. -/
inductive EndAlike (related : Match α → Match β → Prop) :
    Run (Outcome α) → Run (Outcome β) → Prop
  | raised (events : List Event) (e : Fault) :
      EndAlike related ⟨events, .error e⟩ ⟨events, .error e⟩
  | failed (events : List Event) (f : Failure) :
      EndAlike related ⟨events, .ok (.failed f)⟩ ⟨events, .ok (.failed f)⟩
  | matched (events : List Event) {m : Match α} {m' : Match β} (h : related m m') :
      EndAlike related ⟨events, .ok (.matched m)⟩ ⟨events, .ok (.matched m')⟩

/-- Two related matches end alike. -/
theorem endAlike_matched {m : Match α} {m' : Match β} (h : related m m') :
    EndAlike related (matched m) (matched m') := .matched [] h

/-- A run ends like itself. -/
theorem endAlike_self (run : Run (Outcome α)) :
    EndAlike (fun m m' => m' = m ∧ run.answer = .ok (.matched m)) run run := by
  obtain ⟨events, answer⟩ := run
  cases answer with
  | error e => exact .raised events e
  | ok outcome =>
    cases outcome with
    | failed f => exact .failed events f
    | matched m => exact .matched events ⟨rfl, rfl⟩

/-- Going on alike with related matches, runs that end alike still do. -/
theorem EndAlike.ifMatched {next : Match α → Run (Outcome α')} {next' : Match β → Run (Outcome β')}
    (h : EndAlike related run run')
    (hnext : ∀ m m', related m m' → EndAlike related' (next m) (next' m')) :
    EndAlike related' (run.ifMatched next) (run'.ifMatched next') := by
  cases h with
  | raised events e =>
    rw [ifMatched_of_error rfl, ifMatched_of_error rfl]
    exact .raised events e
  | failed events f =>
    rw [ifMatched_of_failed rfl, ifMatched_of_failed rfl]
    exact .failed events f
  | @matched events m m' hrelated =>
    rw [ifMatched_of_matched rfl, ifMatched_of_matched rfl]
    have hlater := hnext m m' hrelated
    generalize next m = later at hlater
    generalize next' m' = later' at hlater
    cases hlater with
    | raised events' e => exact .raised (events ++ events') e
    | failed events' f => exact .failed (events ++ events') f
    | matched events' h => exact .matched (events ++ events') h

/-- Runs that end alike do so for every weaker relation between matches. -/
theorem EndAlike.mono {related₁ : Match α → Match β → Prop} (h : EndAlike related run run')
    (himp : ∀ m m', related m m' → related₁ m m') : EndAlike related₁ run run' := by
  cases h with
  | raised events e => exact .raised events e
  | failed events f => exact .failed events f
  | matched events h => exact .matched events (himp _ _ h)

/-- Where one of them matches, so does the other one. -/
theorem EndAlike.exists_match {m : Match α} (h : EndAlike related run run')
    (hm : run.answer = .ok (.matched m)) :
    ∃ m', run'.answer = .ok (.matched m') ∧ related m m' := by
  cases h with
  | raised | failed => cases hm
  | matched events h =>
    cases hm
    exact ⟨_, rfl, h⟩

/-- Answering with the match that was found changes nothing. -/
theorem ifMatched_matched (run : Run (Outcome α)) : run.ifMatched matched = run := by
  obtain ⟨events, answer⟩ := run
  cases answer with
  | error e => rw [ifMatched_of_error rfl]
  | ok outcome =>
    cases outcome with
    | failed f => rw [ifMatched_of_failed rfl]
    | matched m =>
      rw [ifMatched_of_matched rfl]
      exact congrArg (Run.mk · _) (List.append_nil events)

end Run

/-! ### Sequences of sequences -/

namespace Parser

variable {α : Type}

/-- What a sequence has read begins where the sequence began. -/
theorem sequence_ifMatched_matchTo (parsers : List (Parser α)) (s : Cursor) :
    ((sequence parsers s).ifMatched fun m => .matched (s.matchTo m.value m.rest)) =
      sequence parsers s := by
  cases parsers with
  | nil => rfl
  | cons parser parsers =>
    simp only [sequence, Run.ifMatched_assoc, Run.matched_ifMatched, Cursor.matchTo_value,
      Cursor.matchTo_rest]

/-- Parsers in two groups are read one group behind the other. -/
theorem sequence_append (parsers later : List (Parser α)) (s : Cursor) :
    sequence (parsers ++ later) s = (sequence parsers s).ifMatched fun first =>
      (sequence later first.rest).ifMatched fun others =>
        .matched (s.matchTo (first.value ++ others.value) others.rest) := by
  induction parsers generalizing s with
  | nil => exact (sequence_ifMatched_matchTo later s).symm
  | cons parser parsers ih =>
    simp only [List.cons_append, sequence, ih, Run.ifMatched_assoc, Run.matched_ifMatched,
      Cursor.matchTo_value, Cursor.matchTo_rest]

/-- A step that reads a part and discards its value. -/
def bareStep (parser : Parser Value) : Step Run (Parser Value) := ⟨none, parser, none⟩

/-- The parts of a sequence take the course of steps. -/
theorem sequence_course (parsers : List (Parser Value)) (s : Cursor)
    (finish : List Value → Cursor → Run (Outcome α)) :
    Course (parsers.map bareStep) s finish
      ((sequence parsers s).ifMatched fun m => finish m.value m.rest) := by
  induction parsers generalizing s finish with
  | nil => exact .finished .nil
  | cons parser parsers ih =>
    simp only [sequence, Run.ifMatched_assoc, Run.matched_ifMatched, Cursor.matchTo_value,
      Cursor.matchTo_rest]
    cases hanswer : (parser s).answer with
    | error e =>
      rw [Run.ifMatched_of_error hanswer]
      exact .stopped (List.nil_append _).symm .nil (.raised hanswer)
    | ok outcome =>
      cases outcome with
      | failed f =>
        rw [Run.ifMatched_of_failed hanswer]
        exact .stopped (List.nil_append _).symm .nil (.failed hanswer)
      | matched m =>
        have hlater := ih m.rest fun values t => finish (m.value :: values) t
        have hcourse : Course (bareStep parser :: parsers.map bareStep) s finish _ :=
          hlater.cons hanswer rfl fun _ _ => rfl
        rw [Run.ifMatched_of_matched hanswer]
        simpa only [bareStep, accepts, Run.pure_events, List.append_nil, List.map_cons]
          using hcourse

/-- A match of a sequence and one of a sequence with a block of its parts nested: they have one
start and one end, and the tuple of the first one has the values of the block where the tuple of
the other one has the tuple of these values. -/
def SplicesBlock (before block after : Nat) (s : Cursor) (m m' : Match Value) : Prop :=
  ∃ (us vs ws : List Value) (t : Cursor),
    us.length = before ∧ vs.length = block ∧ ws.length = after ∧
      m = s.matchTo (.tuple (us ++ vs ++ ws)) t ∧ m' = s.matchTo (.tuple (us ++ .tuple vs :: ws)) t

/-- A block of parts that is nested in a sequence is read like the parts themselves. -/
theorem sequence_block_endAlike (before block after : List (Parser Value)) (s : Cursor) :
    Run.EndAlike (SplicesBlock before.length block.length after.length s)
      (map .tuple (sequence (before ++ block ++ after)) s)
      (map .tuple (sequence (before ++ map .tuple (sequence block) :: after)) s) := by
  simp only [map, List.append_assoc, sequence_append, sequence, Run.ifMatched_assoc,
    Run.matched_ifMatched, Cursor.matchTo_value, Cursor.matchTo_rest]
  apply (Run.endAlike_self _).ifMatched
  rintro _ first ⟨rfl, hfirst⟩
  apply (Run.endAlike_self _).ifMatched
  rintro _ middle ⟨rfl, hmiddle⟩
  apply (Run.endAlike_self _).ifMatched
  rintro _ last ⟨rfl, hlast⟩
  refine Run.endAlike_matched ⟨first.value, middle.value, last.value, last.rest,
    length_of_sequence hfirst, length_of_sequence hmiddle, length_of_sequence hlast, ?_, ?_⟩
  · rw [List.append_assoc]
    rfl
  · rfl

end Parser

namespace Nesting

variable {π : Type} {parse : π → Parser Value}

/-- A match of the parts of what is nested and a match of it as a whole: they have one end, and the
value of the second one has the values of the parts when the tuples in it are spliced. -/
def SplicesTo (n : Nesting π) (m : Match (List Value)) (m' : Match Value) : Prop :=
  m'.rest = m.rest ∧ n.splice? m'.value = some m.value

/-- A match of the parts of some members and a match of the members: they have one start and one
end, and the values of the members have those of the parts when the tuples in them are spliced. -/
def SplicesAll (members : List (Nesting π)) (s : Cursor) (m m' : Match (List Value)) : Prop :=
  ∃ values items t, m = s.matchTo values t ∧ m' = s.matchTo items t ∧
    spliceAll? members items = some values

/-- A match of the parts of a group and a match of the group: they have one start and one end, and
the tuple of the group has the values of the parts when the tuples in it are spliced. -/
def Splices (members : List (Nesting π)) (s : Cursor) (m : Match (List Value))
    (m' : Match Value) : Prop :=
  ∃ values items t, m = s.matchTo values t ∧ m' = s.matchTo (.tuple items) t ∧
    (Nesting.group members).splice? (.tuple items) = some values

/-- Members are read like their parts from left to right if each of them is. -/
theorem members_endAlike {members : List (Nesting π)} (h : ∀ n ∈ members, ∀ s,
      Run.EndAlike n.SplicesTo (Parser.sequence (n.leaves.map parse) s) (n.parser parse s))
    (s : Cursor) :
    Run.EndAlike (SplicesAll members s) (Parser.sequence ((members.flatMap leaves).map parse) s)
      (Parser.sequence (members.map (parser parse)) s) := by
  induction members generalizing s with
  | nil => exact Run.endAlike_matched ⟨[], [], s, rfl, rfl, by rw [spliceAll?]⟩
  | cons n ns ih =>
    rw [List.forall_mem_cons] at h
    obtain ⟨hfirst, hlater⟩ := h
    rw [List.flatMap_cons, List.map_append, Parser.sequence_append, List.map_cons, Parser.sequence]
    -- the members behind the first one begin where it ended, which is where its last part ended
    apply (hfirst s).ifMatched
    rintro m m' ⟨hrest, hsplice⟩
    rw [hrest]
    apply (ih hlater m.rest).ifMatched
    rintro _ _ ⟨values, items, t, rfl, rfl, hsplices⟩
    exact Run.endAlike_matched ⟨_, _, t, rfl, rfl, spliceAll?_cons hsplice hsplices⟩

/-- A group is read like its parts from left to right if all of its members are. -/
theorem group_endAlike {members : List (Nesting π)} (h : ∀ n ∈ members, ∀ s,
      Run.EndAlike n.SplicesTo (Parser.sequence (n.leaves.map parse) s) (n.parser parse s))
    (s : Cursor) :
    Run.EndAlike (Splices members s) (Parser.sequence ((Nesting.group members).leaves.map parse) s)
      ((Nesting.group members).parser parse s) := by
  rw [leaves_group, parser, fold_group, Parser.map, ← Run.ifMatched_matched (Parser.sequence _ s)]
  apply (members_endAlike h s).ifMatched
  rintro _ _ ⟨values, items, t, rfl, rfl, hsplices⟩
  exact Run.endAlike_matched ⟨values, items, t, rfl, rfl, by rw [splice?, hsplices]⟩

/-- Whatever is nested is read like its parts from left to right. -/
theorem parser_endAlike (n : Nesting π) (s : Cursor) :
    Run.EndAlike n.SplicesTo (Parser.sequence (n.leaves.map parse) s) (n.parser parse s) := by
  induction n using Nesting.induction generalizing s with
  | part p =>
    have hpart : (parse p s).ifMatched Run.matched = parse p s := Run.ifMatched_matched _
    rw [leaves_part, parser, fold_part, List.map_singleton, Parser.sequence, ← hpart,
      Run.ifMatched_assoc]
    apply (Run.endAlike_self _).ifMatched
    rintro m _ ⟨rfl, -⟩
    exact Run.endAlike_matched ⟨rfl, by rw [splice?]; rfl⟩
  | group members ih =>
    apply (group_endAlike ih s).mono
    rintro _ _ ⟨values, items, t, rfl, rfl, hsplice⟩
    exact ⟨rfl, hsplice⟩

end Nesting

end TextGrammar
