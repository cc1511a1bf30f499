import PulsarNetstack.GraphInvariants
import PulsarNetstack.TruthfulSends

namespace PulsarNetstack

open Program

variable {r : Routing} {rt rt₀ : Runtime} {submit : Submit} {fuel : ℕ}

end PulsarNetstack
