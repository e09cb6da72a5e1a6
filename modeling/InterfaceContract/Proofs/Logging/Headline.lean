/-
This file says how the lines of a log are written.
-/

import InterfaceContract.Logging.Logger
import InterfaceContract.Proofs.Number.Nearest

namespace InterfaceContract

namespace Number

end Number

namespace LogEntry

variable {ρ : Type}

end LogEntry

end InterfaceContract
