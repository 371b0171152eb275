import SealedToken.Proofs.Token.Noticing
import SealedToken.Proofs.Token.Requesting

namespace SealedToken

variable {clock : Reading} {fault : Fault}

end SealedToken
