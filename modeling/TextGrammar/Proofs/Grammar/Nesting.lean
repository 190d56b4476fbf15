import TextGrammar.Proofs.Grammar.Building
import TextGrammar.Proofs.Parser.Nesting

/-!
# Sequences of any length

A sequence has a bounded number of parts, and longer ones are nested. Nesting changes nothing but
the shape of the value. Every part is attempted where it would be in the sequence that nothing
bounds, and what comes of the whole is the same.
-/

namespace TextGrammar

variable {defs : Definitions} {limit : Nat} {parts : List Description}

/-- The sequence that has a sequence for each group of parts. -/
def Nesting.description (n : Nesting Description) : Description := n.fold id .sequence

/-- A nesting whose groups have the sizes of sequences is built and read like its groups. -/
theorem Nesting.HasSizes.read_eq {n : Nesting Description} (hsizes : n.HasSizes)
    (hbuilds : ∀ d ∈ n.leaves, d.Builds defs) :
    n.description.Builds defs ∧
      n.description.read defs limit = n.parser (·.read defs limit) := by
  induction hsizes with
  | part d =>
    rw [leaves_part, List.forall_mem_singleton] at hbuilds
    rw [description, parser, fold_part, fold_part]
    exact ⟨hbuilds, rfl⟩
  | @group members hmin hmax _ ih =>
    have hmembers : ∀ n ∈ members, n.description.Builds defs ∧
        n.description.read defs limit = n.parser (·.read defs limit) := by
      intro n hn
      apply ih n hn
      intro d hd
      rw [leaves_group] at hbuilds
      exact hbuilds d (List.mem_flatMap_of_mem hn hd)
    have hall : ∀ d ∈ members.map description, d.Builds defs :=
      List.forall_mem_map.mpr fun n hn => (hmembers n hn).1
    have hmin' : minSequenceLength ≤ (members.map description).length := by
      rwa [List.length_map]
    have hmax' : (members.map description).length ≤ maxSequenceLength := by
      rwa [List.length_map]
    have hdescription : (Nesting.group members).description =
        .sequence (members.map description) := fold_group _ _ members
    rw [hdescription, Description.read_sequence hall hmin' hmax', List.map_map, parser, fold_group]
    refine ⟨Description.builds_sequence hall hmin' hmax', ?_⟩
    have hparsers : members.map ((·.read defs limit) ∘ description) =
        members.map (parser (·.read defs limit)) :=
      List.map_congr_left fun n hn => (hmembers n hn).2
    rw [hparsers]
    rfl

/-- A block of parts that is described as a sequence in a sequence is read like the parts. -/
theorem Description.read_block_endAlike {before block after : List Description}
    (hbuilds : ∀ d ∈ before ++ block ++ after, d.Builds defs)
    (hmax : (before ++ block ++ after).length ≤ maxSequenceLength)
    (hmin : minSequenceLength ≤ block.length)
    (hless : block.length < (before ++ block ++ after).length) (s : Cursor) :
    Run.EndAlike (Parser.SplicesBlock before.length block.length after.length s)
      ((Description.sequence (before ++ block ++ after)).read defs limit s)
      ((Description.sequence (before ++ .sequence block :: after)).read defs limit s) := by
  have hmin₂ : minSequenceLength = 2 := rfl
  have hlength : (before ++ block ++ after).length =
      before.length + block.length + after.length := by simp [Nat.add_assoc]
  have hlength' : (before ++ Description.sequence block :: after).length =
      before.length + 1 + after.length := by simp [Nat.add_comm, Nat.add_left_comm]
  obtain ⟨⟨hbefore, hblock⟩, hafter⟩ :
      ((∀ d ∈ before, d.Builds defs) ∧ ∀ d ∈ block, d.Builds defs) ∧
        ∀ d ∈ after, d.Builds defs := by
    simpa only [List.forall_mem_append] using hbuilds
  have hinner : block.length ≤ maxSequenceLength := by omega
  have hnested : ∀ d ∈ before ++ .sequence block :: after, d.Builds defs := by
    rw [List.forall_mem_append, List.forall_mem_cons]
    exact ⟨hbefore, Description.builds_sequence hblock hmin hinner, hafter⟩
  -- what holds of the parsers of the parts, said of the descriptions
  have halike := Parser.sequence_block_endAlike (before.map (·.read defs limit))
    (block.map (·.read defs limit)) (after.map (·.read defs limit)) s
  rw [← Description.read_sequence hblock hmin hinner, ← List.map_cons, ← List.map_append,
    ← List.map_append, ← List.map_append, ← Description.read_sequence hbuilds (by omega) hmax,
    ← Description.read_sequence hnested (by omega) (by omega)] at halike
  simpa only [List.length_map] using halike

/-- Sequences are associative. A block of the parts of a sequence may be put into a sequence of its
own: the same happens, with the same failure or fault if there is one, and otherwise the two
match up to the same place and differ in the tuple of the block alone. So any number of parts is
read by sequences of sequences. However the parts are nested, they take one course from left to
right, each one read where the one before it ended, and the nested tuples hold the values of the
parts in their order. What is compared are runs with their events. As parts that are probed tell
where they are attempted, the same parts are attempted at the same places. -/
theorem Description.read_nested (hbuilds : ∀ d ∈ parts, d.Builds defs) (limit : Nat)
    (s : Cursor) :
    (∀ before block after, parts = before ++ block ++ after →
      parts.length ≤ maxSequenceLength → minSequenceLength ≤ block.length →
      block.length < parts.length →
        Run.EndAlike (Parser.SplicesBlock before.length block.length after.length s)
          ((Description.sequence parts).read defs limit s)
          ((Description.sequence (before ++ .sequence block :: after)).read defs limit s)) ∧
      ∃ course, Parser.Course (parts.map fun d => Parser.bareStep (d.read defs limit)) s
          (fun values t => .matched (s.matchTo values t)) course ∧
        ∀ members, (Nesting.group members).leaves = parts → (Nesting.group members).HasSizes →
          Run.EndAlike (Nesting.Splices members s) course
            ((Nesting.group members).description.read defs limit s) := by
  constructor
  · rintro before block after rfl hmax hmin hless
    exact read_block_endAlike hbuilds hmax hmin hless s
  · refine ⟨Parser.sequence (parts.map (·.read defs limit)) s, ?_, ?_⟩
    · have hcourse := Parser.sequence_course (parts.map (·.read defs limit)) s
        fun values t => Run.matched (s.matchTo values t)
      rwa [Parser.sequence_ifMatched_matchTo, List.map_map] at hcourse
    · rintro members rfl hsizes
      rw [(hsizes.read_eq hbuilds).2]
      exact Nesting.group_endAlike (fun n _ => n.parser_endAlike) s

/-- Two digits with a dash between them, and any character. -/
def dashedDigits : List Description :=
  [.leaf .digit, .value (.text "-"), .leaf .digit, .leaf .anyChar]

/-- The same parts in two pairs. -/
def dashedPairs : List (Nesting Description) :=
  [.group [.part (.leaf .digit), .part (.value (.text "-"))],
    .group [.part (.leaf .digit), .part (.leaf .anyChar)]]

/-- Each of the dashed digits is built. -/
theorem dashedDigits_build : ∀ d ∈ dashedDigits, d.Builds ⟨[]⟩ := by
  simp only [dashedDigits, List.forall_mem_cons, List.not_mem_nil, false_implies, implies_true,
    and_true]
  exact ⟨⟨_, by cbv⟩, ⟨_, by cbv⟩, ⟨_, by cbv⟩, ⟨_, by cbv⟩⟩

/-- The groups of the dashed digits have admissible sizes. -/
theorem dashedPairs_hasSizes : (Nesting.group dashedPairs).HasSizes := by
  refine .group (by decide) (by decide) ?_
  simp only [dashedPairs, List.forall_mem_cons, List.not_mem_nil, false_implies, implies_true,
    and_true]
  exact ⟨.group (by decide) (by decide) (by simp [Nesting.HasSizes.part]),
    .group (by decide) (by decide) (by simp [Nesting.HasSizes.part])⟩

set_option maxRecDepth 4000 in
/-- The dashed digits are read as one sequence. -/
theorem dashedDigits_matched :
    ((Description.sequence dashedDigits).read ⟨[]⟩ 1 (.ofText "1-2x")).answer =
      .ok (.matched ((Cursor.ofText "1-2x").matchTo
        (.tuple [.int 1, .text "-", .int 2, .text "x"]) ((Cursor.ofText "1-2x").skip 4))) := by
  cbv

/-- The parts are read alike in a single sequence, with a sequence for the dash and the digit behind
it, and in pairs. -/
theorem dashedDigits_read_nested :
    (∀ d ∈ dashedDigits, d.Builds ⟨[]⟩) ∧ (Nesting.group dashedPairs).leaves = dashedDigits ∧
      (Nesting.group dashedPairs).HasSizes ∧
      (∃ m m', ((Description.sequence dashedDigits).read ⟨[]⟩ 1 (.ofText "1-2x")).answer =
          .ok (.matched m) ∧ m.value = .tuple [.int 1, .text "-", .int 2, .text "x"] ∧
        ((Description.sequence [.leaf .digit, .sequence [.value (.text "-"), .leaf .digit],
            .leaf .anyChar]).read ⟨[]⟩ 1 (.ofText "1-2x")).answer = .ok (.matched m') ∧
        Parser.SplicesBlock 1 2 1 (.ofText "1-2x") m m') ∧
      ∃ course, Run.EndAlike (Nesting.Splices dashedPairs (.ofText "1-2x")) course
        ((Nesting.group dashedPairs).description.read ⟨[]⟩ 1 (.ofText "1-2x")) := by
  have hleaves : (Nesting.group dashedPairs).leaves = dashedDigits := by cbv
  have hread := Description.read_nested dashedDigits_build 1 (.ofText "1-2x")
  obtain ⟨hblock, course, -, hgroups⟩ := hread
  have halike := hblock [.leaf .digit] [.value (.text "-"), .leaf .digit] [.leaf .anyChar] rfl
    (by decide) (by decide) (by decide)
  obtain ⟨m', hmatched, hsplices⟩ := halike.exists_match dashedDigits_matched
  exact ⟨dashedDigits_build, hleaves, dashedPairs_hasSizes,
    ⟨_, m', dashedDigits_matched, rfl, hmatched, hsplices⟩,
    course, hgroups dashedPairs hleaves dashedPairs_hasSizes⟩

end TextGrammar
