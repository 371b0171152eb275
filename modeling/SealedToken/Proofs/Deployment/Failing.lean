import Mathlib.Algebra.Group.Int.Defs
import SealedToken.Proofs.Deployment.Booking
import SealedToken.Proofs.Token.Failing

namespace SealedToken

namespace Deployment

variable {d : Deployment} {m : Manager} {refusal : Refusal}

end Deployment

end SealedToken
