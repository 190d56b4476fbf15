import TextGrammar.Callback
import TextGrammar.Proofs.Grammar.Choice
import TextGrammar.Proofs.Grammar.OptionalRepetition
import TextGrammar.Proofs.Leaf.Table
import TextGrammar.Proofs.Parser.Tags

/-!
# Tags of grammars

A grammar can be told apart by the tag of its matches. Most grammars put their match together and
have a tag of their own, or none. The others hand on the match of a part, so their tags are those of
the part: what lies in between does not hide which variant of a sum has matched.
-/

namespace TextGrammar

/-- The tag that all matches of a grammar have, whatever its parts are. -/
def Grammar.ownTag? : Grammar → Option (Option String)
  | .leaf _ | .satisfy _ _ | .sequence _ | .many _ | .many1 _ | .product _ => some none
  | .variant v => some (some v.name)
  | .retagged tag _ => some tag
  | .oneOf _ | .optional _ _ | .map _ _ | .sum _ | .edge _ _ | .probed _ _ | .custom _ => none

/-- The tags that the matches of a grammar may have. -/
inductive Grammar.MayTag (defs : Definitions) : Grammar → Option String → Prop
  | own {g : Grammar} {tag : Option String} (h : g.ownTag? = some tag) : MayTag defs g tag
  | sum {variants : List (Variant (Except Fault) Grammar)} {v : Variant (Except Fault) Grammar}
      (hv : v ∈ variants) : MayTag defs (.sum variants) (some v.name)
  | oneOf {parts : List Grammar} {p : Grammar} {tag : Option String} (hp : p ∈ parts)
      (h : MayTag defs p tag) : MayTag defs (.oneOf parts) tag
  | optional {p : Grammar} {default : Value} {tag : Option String} (h : MayTag defs p tag) :
      MayTag defs (.optional p default) tag
  | default {p : Grammar} {default : Value} : MayTag defs (.optional p default) none
  | map {p : Grammar} {f : Value → Except Fault Value} {tag : Option String}
      (h : MayTag defs p tag) : MayTag defs (.map p f) tag
  | probed {label : String} {p : Grammar} {tag : Option String} (h : MayTag defs p tag) :
      MayTag defs (.probed label p) tag
  | edge {label : Option String} {target : Target Description} {g : Grammar}
      {tag : Option String} (hresolve : target.resolve defs = .ok g) (h : MayTag defs g tag) :
      MayTag defs (.edge label target) tag
  | custom {parser : Cursor → Except Fault (Outcome Value)} {s : Cursor} {m : Match Value}
      (h : parser s = .ok (.matched m)) : MayTag defs (.custom parser) m.tag

/-- At a cursor the match of a grammar is that of another one inside, at most with another value.
For both grammars it is said how many attempts at edges may be active. -/
inductive Grammar.LetsThrough (defs : Definitions) (s : Cursor) :
    Nat → Grammar → Nat → Grammar → Prop
  | refl {limit : Nat} {g : Grammar} : LetsThrough defs s limit g limit g
  | map {limit inner : Nat} {p g : Grammar} {f : Value → Except Fault Value}
      (h : LetsThrough defs s limit p inner g) : LetsThrough defs s limit (.map p f) inner g
  | probed {limit inner : Nat} {label : String} {p g : Grammar}
      (h : LetsThrough defs s limit p inner g) : LetsThrough defs s limit (.probed label p) inner g
  | edge {limit inner : Nat} {label : Option String} {target : Target Description} {p g : Grammar}
      (hresolve : target.resolve defs = .ok p) (h : LetsThrough defs s limit p inner g) :
      LetsThrough defs s (limit + 1) (.edge label target) inner g
  | optional {limit inner : Nat} {p g : Grammar} {default : Value} {m : Match Value}
      (hmatched : (p.parserWithin defs limit s).answer = .ok (.matched m))
      (h : LetsThrough defs s limit p inner g) :
      LetsThrough defs s limit (.optional p default) inner g
  | oneOf {limit inner : Nat} {before after : List Grammar} {p g : Grammar}
      {failures : List Failure} {m : Match Value}
      (hbefore : Parser.FailAt s (before.map (·.parserWithin defs limit)) failures)
      (hmatched : (p.parserWithin defs limit s).answer = .ok (.matched m))
      (h : LetsThrough defs s limit p inner g) :
      LetsThrough defs s limit (.oneOf (before ++ p :: after)) inner g

variable {defs : Definitions} {edge : Option String → Target Description → Parser Value}

/-! ### Possible tags -/

/-- A grammar with a tag of its own puts its matches together. The tags of its parts are lost. -/
theorem Grammar.givesTags_of_ownTag {g : Grammar} {tag : Option String}
    (h : g.ownTag? = some tag) : (g.parser edge).GivesTags (· = tag) := by
  cases g with
  | leaf l =>
    cases h
    exact (Leaf.parser_reads l).givesTags
  | satisfy test expected =>
    cases h
    exact Parser.givesTags_map (Parser.givesTags_satisfy _ expected) _
  | sequence parts =>
    cases h
    exact Parser.givesTags_map (Parser.givesTags_sequence _) _
  | many p =>
    cases h
    exact Parser.givesTags_map (Parser.givesTags_many _) _
  | many1 p =>
    cases h
    exact Parser.givesTags_map (Parser.givesTags_many1 _) _
  | product p =>
    cases h
    exact Parser.givesTags_product _
  | variant v =>
    obtain ⟨name, p⟩ := v
    cases h
    exact Parser.givesTags_retagged (some name) _
  | retagged tag p =>
    cases h
    exact Parser.givesTags_retagged tag _
  | oneOf _ | optional _ _ | map _ _ | sum _ | edge _ _ | probed _ _ | custom _ => cases h

/-- A grammar gives its matches tags that they may have, if the edges behind it do. -/
theorem Grammar.parser_givesTags
    (hedge : ∀ label target,
      (edge label target).GivesTags ((Grammar.edge label target).MayTag defs))
    (g : Grammar) : (g.parser edge).GivesTags (g.MayTag defs) := by
  induction g using Grammar.induction_parts with
  | whole g ih =>
    -- a tag of the grammar's own hides what its parts give
    cases hown : g.ownTag? with
    | some tag =>
      refine (Grammar.givesTags_of_ownTag hown).mono ?_
      rintro _ rfl
      exact .own hown
    | none =>
      cases g with
      | oneOf parts =>
        rw [Grammar.parser, parsers_eq_map]
        exact Parser.givesTags_choice fun p hp => (ih p hp).mono fun _ => .oneOf hp
      | optional p default =>
        have hp : (p.parser edge).GivesTags ((Grammar.optional p default).MayTag defs) :=
          (ih p List.mem_cons_self).mono fun _ => .optional
        exact Parser.givesTags_optional hp .default default
      | map p f =>
        have hp : (p.parser edge).GivesTags ((Grammar.map p f).MayTag defs) :=
          (ih p List.mem_cons_self).mono fun _ => .map
        exact Parser.givesTags_mapRun hp _
      | sum variants =>
        rw [Grammar.parser, Parser.sum, variantParsers_eq_map, List.map_map, List.map_map]
        refine Parser.givesTags_choice fun v hv => ?_
        refine (Grammar.givesTags_of_ownTag (g := .variant v) rfl).mono ?_
        rintro _ rfl
        exact .sum hv
      | edge label target => exact hedge label target
      | probed label p =>
        have hp : (p.parser edge).GivesTags ((Grammar.probed label p).MayTag defs) :=
          (ih p List.mem_cons_self).mono fun _ => .probed
        exact Parser.givesTags_probed hp label
      | custom parser =>
        intro s m hm
        rw [Grammar.parser, Run.consult_answer] at hm
        exact .custom hm
      | leaf _ | satisfy _ _ | sequence _ | many _ | many1 _ | product _ | variant _
      | retagged _ _ => cases hown

/-- A grammar gives no tags but those that it may give. -/
theorem Grammar.parserWithin_givesTags (limit : Nat) (g : Grammar) :
    (g.parserWithin defs limit).GivesTags (g.MayTag defs) := by
  induction limit generalizing g with
  | zero => exact Grammar.parser_givesTags (fun _ _ => Parser.givesTags_refused) g
  | succ limit ih =>
    refine Grammar.parser_givesTags (fun label target => Parser.givesTags_edge fun s => ?_) g
    refine Run.givesTags_bind fun _ _ => Run.givesTags_bind fun g' hresolve => ?_
    rw [Run.consult_answer] at hresolve
    exact fun m hm => .edge hresolve (ih g' s m hm)

/-! ### Matches that are let through -/

/-- A match is the match of a grammar that is let through, at most with another value. -/
theorem Grammar.LetsThrough.exists_match {limit inner : Nat} {g h : Grammar} {s : Cursor}
    {m : Match Value} (hthrough : Grammar.LetsThrough defs s limit g inner h)
    (hmatched : (g.parserWithin defs limit s).answer = .ok (.matched m)) :
    ∃ value, (h.parserWithin defs inner s).answer = .ok (.matched (m.withValue value)) := by
  -- the induction is on what the match passes through, from the outside to the inside
  induction hthrough generalizing m with
  | refl => exact ⟨m.value, hmatched⟩
  | map hp ih =>
    rw [Grammar.parserWithin_map] at hmatched
    obtain ⟨first, hfirst, hchanged⟩ := Run.exists_of_ifMatched hmatched
    obtain ⟨value, -, hvalue⟩ := Run.exists_of_bind hchanged
    cases hvalue
    have hinside := ih hfirst
    exact hinside
  | probed hp ih =>
    rw [Grammar.parserWithin_probed] at hmatched
    obtain ⟨-, -, hpart⟩ := Run.exists_of_bind hmatched
    exact ih hpart
  | edge hresolve hp ih =>
    obtain ⟨first, hfirst, rfl⟩ := Parser.exists_of_edge hmatched
    obtain ⟨-, -, hannounced⟩ := Run.exists_of_bind hfirst
    obtain ⟨p, hp, hresolved⟩ := Run.exists_of_bind hannounced
    rw [Run.consult_answer, hresolve] at hp
    cases hp
    have hinside := ih hresolved
    exact hinside
  | optional hpart hp ih =>
    rw [Grammar.parserWithin_optional, Parser.optional_of_matched hpart] at hmatched
    cases hmatched
    exact ih hpart
  | @oneOf limit _ _ _ p _ _ _ hbefore hpart hp ih =>
    have hfirst : ∀ f, (p.parserWithin defs limit s).answer ≠ .ok (.failed f) := by
      intro f hfailed
      cases hpart.symm.trans hfailed
    rw [Grammar.parserWithin_eq, Grammar.parser, Parser.oneOf, ← map_parserWithin, List.map_append,
      List.map_cons, Parser.choice_of_first _ hbefore hfirst, hpart] at hmatched
    cases hmatched
    exact ih hpart

/-- A sum has the tag of the first variant that matches. -/
theorem Grammar.exists_of_sum {limit : Nat} {variants : List (Variant (Except Fault) Grammar)}
    {s : Cursor} {m : Match Value}
    (h : ((Grammar.sum variants).parserWithin defs limit s).answer = .ok (.matched m)) :
    ∃ before v after failures, variants = before ++ v :: after ∧
      Parser.FailAt s (before.map fun v => (Grammar.variant v).parserWithin defs limit) failures ∧
      ((Grammar.variant v).parserWithin defs limit s).answer = .ok (.matched m) ∧
      m.tag = some v.name := by
  rw [Grammar.parserWithin_sum] at h
  obtain ⟨before, v, after, failures, rfl, hbefore, hmatched⟩ := Parser.exists_of_choice h
  refine ⟨before, v, after, failures, rfl, hbefore, hmatched, ?_⟩
  exact Grammar.givesTags_of_ownTag (g := .variant v) rfl s m
    (by rwa [Grammar.parserWithin_eq] at hmatched)

/-- Where the tag of a match comes from. It is one of the tags that the matches of the grammar may
have. Characters, numbers, sequences, repetitions and products have no tag and a variant has its
name, whatever the tags of what is read inside are. A sum has the name of the first variant that
matches, and so has each grammar that lets the match of the sum through: edges, probes and changes
of the value do, options if the sum matches, and choices if the alternatives before it fail. -/
theorem Grammar.parserWithin_tag {g : Grammar} {limit : Nat} {s : Cursor} {m : Match Value}
    (h : (g.parserWithin defs limit s).answer = .ok (.matched m)) :
    g.MayTag defs m.tag ∧
      (∀ tag, g.ownTag? = some tag → m.tag = tag) ∧
      ∀ inner variants, Grammar.LetsThrough defs s limit g inner (.sum variants) →
        ∃ before v after failures, variants = before ++ v :: after ∧
          Parser.FailAt s (before.map fun v => (Grammar.variant v).parserWithin defs inner)
            failures ∧
          (∃ value, ((Grammar.variant v).parserWithin defs inner s).answer =
            .ok (.matched (m.withValue value))) ∧
          m.tag = some v.name := by
  refine ⟨Grammar.parserWithin_givesTags limit g s m h, fun tag htag => ?_, ?_⟩
  · rw [Grammar.parserWithin_eq] at h
    exact Grammar.givesTags_of_ownTag htag s m h
  · intro inner variants hthrough
    obtain ⟨value, hsum⟩ := hthrough.exists_match h
    obtain ⟨before, v, after, failures, hvariants, hbefore, hmatched, htag⟩ :=
      Grammar.exists_of_sum hsum
    exact ⟨before, v, after, failures, hvariants, hbefore, ⟨value, hmatched⟩, htag⟩

/-- The variant of a name that reads a leaf. -/
def leafVariant (name : String) (l : Leaf) : Variant (Except Fault) Grammar :=
  ⟨name, ⟨Callback.tableBuilder.build, [⟨none, .leaf l, none⟩], false, false⟩⟩

/-- A digit or a sign. -/
def digitOrSign : List (Variant (Except Fault) Grammar) :=
  [leafVariant "digit" .digit, leafVariant "sign" .sign]

/-- A digit or a sign, by a name. -/
def namedDigitOrSign : Definitions := ⟨[⟨"mark", none, some (.sum digitOrSign)⟩]⟩

/-- What the name stands for. -/
def markEdge : Grammar := .edge none (.named "mark")

/-- A letter or a mark, or nothing at all. -/
def markOrNothing : Grammar := .optional (.oneOf [.leaf (.literal "x"), .map markEdge .ok]) .null

/-- The mark stands for a digit or a sign. -/
theorem resolve_mark : (Target.named "mark").resolve namedDigitOrSign = .ok (.sum digitOrSign) := by
  simp [Target.resolve, Definitions.find?, Definitions.grammarOf, namedDigitOrSign]

/-- The match of a sign. -/
def signMatch : Match Value :=
  ⟨.box (.dict []), (Cursor.ofText "-").skip 1, 0, some "sign"⟩

set_option maxRecDepth 4000 in
/-- What comes of the alternatives and of their choice at a sign. -/
theorem markOrNothing_answers :
    ((Grammar.leaf (.literal "x")).parserWithin namedDigitOrSign 1 (.ofText "-")).answer =
        .ok (.failed (.mismatch (.ofText "-") "'x'" '-')) ∧
      ((Grammar.map markEdge .ok).parserWithin namedDigitOrSign 1 (.ofText "-")).answer =
        .ok (.matched signMatch) ∧
      ((Grammar.oneOf [.leaf (.literal "x"), .map markEdge .ok]).parserWithin namedDigitOrSign 1
          (.ofText "-")).answer = .ok (.matched signMatch) ∧
      (markOrNothing.parserWithin namedDigitOrSign 1 (.ofText "-")).answer =
        .ok (.matched signMatch) := by
  refine ⟨?_, ?_, ?_, ?_⟩ <;> cbv

/-- The choice lets the outcome of the mark through at a sign. -/
theorem markOrNothing_letsThrough :
    Grammar.LetsThrough namedDigitOrSign (.ofText "-") 1 markOrNothing 0 (.sum digitOrSign) := by
  obtain ⟨hletter, hmark, hchoice, -⟩ := markOrNothing_answers
  have hbefore : Parser.FailAt (.ofText "-")
      ([Grammar.leaf (.literal "x")].map (·.parserWithin namedDigitOrSign 1)) _ :=
    .cons hletter .nil
  exact .optional hchoice (.oneOf hbefore hmark (.map (.edge resolve_mark .refl)))

/-- A sign gets its tag from the second variant of the sum, through an edge, a change of the value,
a choice and an option. -/
theorem markOrNothing_tag :
    (markOrNothing.parserWithin namedDigitOrSign 1 (.ofText "-")).answer =
        .ok (.matched signMatch) ∧
      Grammar.LetsThrough namedDigitOrSign (.ofText "-") 1 markOrNothing 0 (.sum digitOrSign) ∧
      markOrNothing.MayTag namedDigitOrSign (some "sign") ∧
      ∃ before v after failures, digitOrSign = before ++ v :: after ∧
        Parser.FailAt (.ofText "-")
          (before.map fun v => (Grammar.variant v).parserWithin namedDigitOrSign 0) failures ∧
        v.name = "sign" := by
  obtain ⟨-, -, -, hmatched⟩ := markOrNothing_answers
  obtain ⟨htag, -, hsum⟩ := Grammar.parserWithin_tag hmatched
  obtain ⟨before, v, after, failures, hvariants, hbefore, -, hname⟩ :=
    hsum 0 digitOrSign markOrNothing_letsThrough
  exact ⟨hmatched, markOrNothing_letsThrough, htag, before, v, after, failures, hvariants, hbefore,
    (Option.some.inj hname).symm⟩

end TextGrammar
