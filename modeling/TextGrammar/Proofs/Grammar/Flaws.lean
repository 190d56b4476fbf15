import TextGrammar.Proofs.Grammar.Malformed
import TextGrammar.Proofs.Grammar.Raising

/-!
# Faults of malformed grammars

Every fault of building a grammar says what is wrong with the grammar. A grammar that has been built
has been checked altogether, so none of these faults comes up again while reading, except behind
edges: what they lead to is built on each attempt.
-/

namespace TextGrammar

variable {defs : Definitions}

end TextGrammar
