import TextGrammar.Callback
import TextGrammar.Grammar.Reading
import TextGrammar.Key
import TextGrammar.Proofs.Cursor.Views
import TextGrammar.Proofs.Failure.Notes
import TextGrammar.Proofs.Grammar.Announcements
import TextGrammar.Proofs.Grammar.CharacterRuns
import TextGrammar.Proofs.Grammar.Choice
import TextGrammar.Proofs.Grammar.Complete
import TextGrammar.Proofs.Grammar.Concatenation
import TextGrammar.Proofs.Grammar.Depth
import TextGrammar.Proofs.Grammar.Events
import TextGrammar.Proofs.Grammar.ExclusiveAlternatives
import TextGrammar.Proofs.Grammar.Exits
import TextGrammar.Proofs.Grammar.Factoring
import TextGrammar.Proofs.Grammar.Faults
import TextGrammar.Proofs.Grammar.Flaws
import TextGrammar.Proofs.Grammar.Furthest
import TextGrammar.Proofs.Grammar.Guarantees
import TextGrammar.Proofs.Grammar.Iteration
import TextGrammar.Proofs.Grammar.Limit
import TextGrammar.Proofs.Grammar.Local
import TextGrammar.Proofs.Grammar.NestedNumber
import TextGrammar.Proofs.Grammar.Nesting
import TextGrammar.Proofs.Grammar.OptionalRepetition
import TextGrammar.Proofs.Grammar.OuterBlanks
import TextGrammar.Proofs.Grammar.PrefixExpression
import TextGrammar.Proofs.Grammar.Recognition
import TextGrammar.Proofs.Grammar.Refusal
import TextGrammar.Proofs.Grammar.Steps
import TextGrammar.Proofs.Grammar.Tags
import TextGrammar.Proofs.Leaf.IntegerParts
import TextGrammar.Proofs.Leaf.Integers
import TextGrammar.Proofs.Leaf.Literals
import TextGrammar.Proofs.Leaf.LongestNumber
import TextGrammar.Proofs.Parser.Repetition
import TextGrammar.Proofs.Peg.Adequacy
import TextGrammar.Proofs.Peg.Derivation
import TextGrammar.Proofs.Peg.Soundness
import TextGrammar.Run
