import TextGrammar.Proofs.Grammar.CharacterRuns
import TextGrammar.Proofs.Grammar.Local
import TextGrammar.Proofs.Grammar.Steps

/-!
# Blanks around products

Blanks before a product that skips them do not matter. They and the blanks that the text begins
with are one run of blanks, so what the steps read begins at the same character with or without
them, and no step looks behind the cursor at which it is read. Only the match begins where the
blanks begin.
-/

namespace TextGrammar

open Text

/-! ### Behind a run of blanks -/

namespace Cursor

/-- Behind a run of blanks there is no further blank. -/
theorem not_isBlank_of_afterBlanks {s : Cursor} {c : Char} (h : s.afterBlanks.next? = some c) :
    isBlank c = false :=
  (hasRun_takeWhile isBlank s).stops c h

/-- In front of what is not blank nothing is skipped. -/
theorem afterBlanks_of_next? {s : Cursor} (h : ∀ c, s.next? = some c → isBlank c = false) :
    s.afterBlanks = s := by
  have hrun : s.rest.takeWhile isBlank = [] := by
    cases hrest : s.rest with
    | nil => rfl
    | cons c cs =>
      rw [List.takeWhile_cons_of_neg]
      simp [h c (next?_of_rest hrest)]
  rw [afterBlanks, hrun, List.length_nil, skip_zero]

/-- Nothing is left to be skipped behind a run of blanks. -/
@[simp] theorem afterBlanks_afterBlanks (s : Cursor) : s.afterBlanks.afterBlanks = s.afterBlanks :=
  afterBlanks_of_next? fun _ => not_isBlank_of_afterBlanks

/-- Behind the first of two texts the cursor is that of the second one with the first in front. -/
theorem skip_ofText_append (front text : String) :
    (ofText (front ++ text)).skip front.toList.length =
      (ofText text).behind front.toList.toArray := by
  refine Cursor.ext ?_ ?_
  · simp [skip, ofText, behind]
  · simp [skip, ofText, behind]

/-- Blanks before a text and the blanks that it begins with are skipped together. -/
theorem afterBlanks_ofText_append {blanks : String}
    (hblanks : ∀ c ∈ blanks.toList, isBlank c = true) (text : String) :
    (ofText (blanks ++ text)).afterBlanks =
      (ofText text).afterBlanks.behind blanks.toList.toArray := by
  have hrun : ((ofText (blanks ++ text)).rest.takeWhile isBlank).length =
      blanks.toList.length + ((ofText text).rest.takeWhile isBlank).length := by
    rw [rest_ofText, rest_ofText, String.toList_append, List.takeWhile_append_of_pos hblanks,
      List.length_append]
  rw [afterBlanks, hrun, ← skip_skip, skip_ofText_append, skip_behind, afterBlanks]

end Cursor

/-! ### Matches that begin earlier -/

/-- The match with another start. -/
def Match.startingAt {α : Type} (m : Match α) (start : Int) : Match α := { m with start }

/-- The outcome of which a match has another start. -/
def Outcome.startingAt {α : Type} (start : Int) : Outcome α → Outcome α
  | .matched m => .matched (m.startingAt start)
  | .failed f => .failed f

namespace Parser

variable {p : Product Run (Parser Value)}

/-- What the steps of a product read begins behind the blanks that it skips, and the match ends
behind the blanks that follow. -/
theorem product_around (hskips : p.skipsAround = true) (s : Cursor) :
    product p s = (fields p.skipsBetween p.steps s.afterBlanks).ifMatched fun m =>
      (p.build m.value).bind fun value => .matched (s.matchTo value m.rest.afterBlanks) := by
  simp only [product, hskips, skipBlanksIf_true, Run.pure_bind]

/-- From behind the blanks a product reads what it reads from before them. -/
theorem product_afterBlanks (hskips : p.skipsAround = true) (s : Cursor) :
    product p s =
      (product p s.afterBlanks).ifMatched fun m => .matched (m.startingAt s.pos) := by
  rw [product_around hskips, product_around hskips, Cursor.afterBlanks_afterBlanks,
    Run.ifMatched_assoc]
  simp only [Run.bind_matched_ifMatched]
  rfl

/-- A tag does not depend on where a match starts. -/
theorem retagged_afterBlanks {parser : Parser Value} {s : Cursor}
    (h : parser s = (parser s.afterBlanks).ifMatched fun m => .matched (m.startingAt s.pos))
    (tag : Option String) :
    retagged tag parser s =
      (retagged tag parser s.afterBlanks).ifMatched fun m => .matched (m.startingAt s.pos) := by
  rw [retagged, h, retagged, Run.ifMatched_assoc, Run.ifMatched_assoc]
  simp only [Run.matched_ifMatched]
  rfl

/-- A match of a product has no tag, and it ends behind the blanks that follow the steps. -/
theorem product_match (hskips : p.skipsAround = true) {s : Cursor} {m : Match Value}
    (h : (product p s).answer = .ok (.matched m)) :
    m.tag = none ∧ m.rest.afterBlanks = m.rest := by
  rw [product_around hskips] at h
  obtain ⟨read, -, hbuild⟩ := Run.exists_of_ifMatched h
  obtain ⟨value, -, hvalue⟩ := Run.exists_of_bind hbuild
  cases hvalue
  exact ⟨rfl, Cursor.afterBlanks_afterBlanks _⟩

end Parser

/-! ### Grammars -/

variable {defs : Definitions} {p : Product (Except Fault) Grammar} {g : Grammar}
  {tag : Option String}

/-- Reading a product skips blanks around it as described. -/
theorem productParser_skipsAround (edge : Option String → Target Description → Parser Value)
    (p : Product (Except Fault) Grammar) : (productParser edge p).skipsAround = p.skipsAround := by
  cases p
  rfl

/-- A grammar that reads as a product is standard if the steps of the product are. -/
theorem Product.ReadBy.isStandard (hg : p.ReadBy g tag)
    (hsteps : ∀ step ∈ p.steps, step.parser.IsStandard defs) : g.IsStandard defs := by
  have hparts : ∀ part ∈ g.parts, part.IsStandard defs := by
    cases hg <;> simpa [Grammar.parts] using hsteps
  intro parser hreach
  cases hreach with
  | refl => cases hg
  | part hpart hlater => exact hparts _ hpart parser hlater
  | target => cases hg

/-- A product that skips blanks before it is read as if it began behind them. -/
theorem Product.ReadBy.afterBlanks (hg : p.ReadBy g tag) (hskips : p.skipsAround = true)
    (limit : Nat) (s : Cursor) :
    g.parserWithin defs limit s =
      (g.parserWithin defs limit s.afterBlanks).ifMatched fun m =>
        .matched (m.startingAt s.pos) := by
  have hparser := (productParser_skipsAround (edgeWithin defs limit) p).trans hskips
  have hproduct := Parser.product_afterBlanks hparser s
  rw [Grammar.parserWithin_eq]
  cases hg with
  | product => exact hproduct
  | variant name => exact Parser.retagged_afterBlanks hproduct (some name)

/-- A product that skips blanks behind it leaves none, and its match has the tag. -/
theorem Product.ReadBy.match (hg : p.ReadBy g tag) (hskips : p.skipsAround = true) {limit : Nat}
    {s : Cursor} {m : Match Value} (h : (g.parserWithin defs limit s).answer = .ok (.matched m)) :
    m.tag = tag ∧ m.rest.afterBlanks = m.rest := by
  have hparser := (productParser_skipsAround (edgeWithin defs limit) p).trans hskips
  rw [Grammar.parserWithin_eq] at h
  cases hg with
  | product => exact Parser.product_match hparser h
  | variant name =>
    obtain ⟨read, hread, htag⟩ := Run.exists_of_ifMatched h
    cases htag
    exact ⟨rfl, (Parser.product_match hparser hread).2⟩

/-- The match of a product begins where the product is attempted, in front of the blanks. -/
theorem Product.ReadBy.start_eq (hg : p.ReadBy g tag) (hskips : p.skipsAround = true) {limit : Nat}
    {s : Cursor} {m : Match Value} (h : (g.parserWithin defs limit s).answer = .ok (.matched m)) :
    m.start = s.pos := by
  rw [hg.afterBlanks hskips] at h
  obtain ⟨read, -, hstart⟩ := Run.exists_of_ifMatched h
  cases hstart
  rfl

/-- Blanks before a text move what is read of it, and a match begins before them. -/
theorem Product.ReadBy.ofText_append (hg : p.ReadBy g tag) (hskips : p.skipsAround = true)
    (hstandard : g.IsStandard defs) {blanks : String}
    (hblanks : ∀ c ∈ blanks.toList, isBlank c = true) (text : String) (limit : Nat) :
    g.parserWithin defs limit (.ofText (blanks ++ text)) =
      (g.parserWithin defs limit (.ofText text)).behind blanks.toList.toArray
        fun outcome => (outcome.behind blanks.toList.toArray).startingAt 0 := by
  have hlocal := Grammar.parserWithin_isLocal hstandard limit blanks.toList.toArray
    (Cursor.ofText text).afterBlanks
  rw [hg.afterBlanks hskips, hg.afterBlanks hskips limit (.ofText text),
    Cursor.afterBlanks_ofText_append hblanks]
  apply Run.bind_behind hlocal
  intro outcome _
  cases outcome <;> rfl

/-- Blanks before a text do not matter to a product or a variant that skips blanks around its steps,
if everything the steps come to is read by the parsers of the library. The same happens behind the
blanks, at positions that are greater by their count. A match has the same value and tag, begins at
the start of the text all the same, and ends at the same character, which is never a blank. A
failure is the same failure with the same failures nested in it, and a fault is the same fault. -/
theorem Grammar.parserWithin_outerBlanks (hg : p.ReadBy g tag) (hskips : p.skipsAround = true)
    (hsteps : ∀ step ∈ p.steps, step.parser.IsStandard defs) {blanks : String}
    (hblanks : ∀ c ∈ blanks.toList, isBlank c = true) (text : String) (limit : Nat) :
    let front := blanks.toList.toArray
    let read := g.parserWithin defs limit (.ofText text)
    let moved := g.parserWithin defs limit (.ofText (blanks ++ text))
    moved.events = read.events.map (Event.behind front) ∧
      (∀ m, read.answer = .ok (.matched m) →
        m.tag = tag ∧ m.start = 0 ∧ (∀ c, m.rest.next? = some c → isBlank c = false) ∧
          ∃ m', moved.answer = .ok (.matched m') ∧ m'.value = m.value ∧ m'.tag = m.tag ∧
            m'.start = 0 ∧ m'.rest = m.rest.behind front ∧
            m'.rest.pos = blanks.length + m.rest.pos ∧
            ∀ c, m'.rest.next? = some c → isBlank c = false) ∧
      (∀ f, read.answer = .ok (.failed f) →
        ∃ f', moved.answer = .ok (.failed f') ∧ f' = f.behind front ∧ f'.kindName = f.kindName ∧
          f'.message = f.message ∧ f'.pos = blanks.length + f.pos ∧
          f'.notes = f.notes.map (Note.behind front)) ∧
      ∀ e, read.answer = .error e → moved.answer = .error e := by
  intro front read moved
  -- one equation of runs, from which all the parts are read off
  have hmoved : moved = read.behind front fun outcome => (outcome.behind front).startingAt 0 :=
    hg.ofText_append hskips (hg.isStandard hsteps) hblanks text limit
  have hsize : front.size = blanks.length := by
    rw [List.size_toArray, String.length_toList]
  refine ⟨?_, fun m hm => ?_, fun f hf => ?_, fun e he => ?_⟩
  · rw [hmoved]
    rfl
  · obtain ⟨htag, hrest⟩ := hg.match hskips hm
    have hend : ∀ c, m.rest.next? = some c → isBlank c = false :=
      hrest ▸ fun c => Cursor.not_isBlank_of_afterBlanks
    refine ⟨htag, hg.start_eq hskips hm, hend, (m.behind front).startingAt 0, ?_, rfl, rfl, rfl,
      rfl, ?_, fun c hnext => hend c ?_⟩
    · rw [hmoved, Run.behind, hm]
      rfl
    · rw [← hsize]
      rfl
    · rw [Cursor.next?_eq_head?] at hnext ⊢
      rwa [← Cursor.rest_behind front m.rest]
  · refine ⟨f.behind front, ?_, rfl, f.kindName_behind front, f.message_behind front, ?_,
      f.notes_behind front⟩
    · rw [hmoved, Run.behind, hf]
      rfl
    · rw [Failure.pos, f.cursor_behind front, Cursor.pos_behind, hsize]
      rfl
  · rw [hmoved, Run.behind, he]
    rfl

/-- A table of two characters with a comma between them and blanks around. -/
def spacedPair : Product (Except Fault) Grammar := { pairProduct with skipsAround := true }

/-- No parser of a user's own is in the steps of the pair. -/
theorem spacedPair_isStandard :
    ∀ step ∈ spacedPair.steps, step.parser.IsStandard ⟨[]⟩ := by
  intro step hstep
  apply Grammar.isStandard_of_exits
  simp only [spacedPair, pairProduct, List.mem_cons, List.not_mem_nil, or_false] at hstep
  rcases hstep with rfl | rfl | rfl <;> simp [Definitions.exits, Grammar.exits]

set_option maxRecDepth 4000 in
/-- The pair is read with the blanks around it. -/
theorem spacedPair_answer :
    ((Grammar.variant ⟨"pair", spacedPair⟩).parserWithin ⟨[]⟩ 1 (.ofText " 1,2 x")).answer =
      .ok (.matched ⟨.dict [("first", .text "1"), ("second", .text "2")],
        (Cursor.ofText " 1,2 x").skip 5, 0, some "pair"⟩) := by
  cbv

/-- Two more blanks before a pair do not matter. -/
theorem spacedPair_outerBlanks :
    spacedPair.ReadBy (.variant ⟨"pair", spacedPair⟩) (some "pair") ∧
      spacedPair.skipsAround = true ∧
      (∀ step ∈ spacedPair.steps, step.parser.IsStandard ⟨[]⟩) ∧
      (∀ c ∈ "\t ".toList, isBlank c = true) ∧
      ∃ m, ((Grammar.variant ⟨"pair", spacedPair⟩).parserWithin ⟨[]⟩ 1
          (.ofText ("\t " ++ " 1,2 x"))).answer = .ok (.matched m) ∧
        m.value = .dict [("first", .text "1"), ("second", .text "2")] ∧ m.tag = some "pair" ∧
        m.start = 0 ∧ m.rest.pos = 7 := by
  have hread : spacedPair.ReadBy (.variant ⟨"pair", spacedPair⟩) (some "pair") := .variant "pair"
  have hblanks : ∀ c ∈ "\t ".toList, isBlank c = true := by
    simp [isBlank, blanks, CharSet.contains]
  obtain ⟨-, hmatched, -⟩ :=
    Grammar.parserWithin_outerBlanks hread rfl spacedPair_isStandard hblanks " 1,2 x" 1
  obtain ⟨-, -, -, m, hanswer, hvalue, htag, hstart, -, hpos, -⟩ := hmatched _ spacedPair_answer
  exact ⟨hread, rfl, spacedPair_isStandard, hblanks, m, hanswer, hvalue, htag, hstart, hpos⟩

end TextGrammar
