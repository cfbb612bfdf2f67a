import Descriptors.Session.Act
/-! Monitors and observers of a session. Monitors are named; the one dispatching is taken
out of the session and is reached only as `$` (or by leaving the name out) until its wait is
over. Making and dropping a monitor take the name as it stands, `$` included. A number to
watch is given by a handle or directly; a handle that is gone stands for the number it had
last. -/
namespace Descriptors
namespace Session
namespace Act

/-- The monitor an operation names: `none` for the one dispatching. -/
def monitorRef (m : Option String) : Act (Option String) := do
  let w ← get
  match m with
  | none | some "$" =>
    if w.active.isSome then pure none else misuse "monitor $ outside observer"
  | some name =>
    if (lookupIn w.monitors name).isSome then pure (some name) else misuse s!"no monitor {name}"

/-- The monitor a reference names. -/
def getMonitor (ref : Option String) : Act (Monitor Observer) := do
  let w ← get
  match ref with
  | none =>
    match w.active with
    | some a => pure a.monitor
    | none => misuse "monitor $ outside observer"
  | some name =>
    match lookupIn w.monitors name with
    | some mon => pure mon
    | none => misuse s!"no monitor {name}"

/-- Replaces the monitor a reference names. -/
def setMonitor (ref : Option String) (mon : Monitor Observer) : Act Unit :=
  modify fun w =>
    match ref with
    | none => { w with active := w.active.map fun a => { a with monitor := mon } }
    | some name => { w with monitors := setIn w.monitors name mon }

/-- The number a target stands for. A name that some number got stands for the number it got
last, even if its handle is gone; `$` then stands for the notified number, and outside an
observer for nothing; any other name must be a handle, a whole pipe standing for its
reader. -/
def lastNumber (ctx : Ctx) : Target → Act Int
  | .number fd => pure fd
  | .handle h => do
    let w ← get
    match lookupIn w.lastNumbers h with
    | some fd => pure fd
    | none =>
      if h == "$" then
        match ctx.dollar with
        | some fd => pure fd
        | none => misuse "$ outside observer"
      else
        match lookupHandle w h with
        | some hd => number (← descOf hd)
        | none => misuse s!"no handle {h}"

/-- How an answer shows a monitor. -/
def monitorInfo (w : World) (mon : Monitor Observer) : Doc :=
  .record [("len", .num mon.len), ("is_empty", .bool mon.isEmpty),
    ("highest", if mon.highest < 0 then .num (-1) else w.showNumber mon.highest),
    ("watched", .list (mon.associations.map fun a => w.showNumber a.fd))]

/-- Runs an operation on monitors and observers, waits apart; `none` for any other
operation. -/
def watchOp (ctx : Ctx) : Op → Option (Act Doc)
  | .monitorNew m => some do
    modify fun w => { w with monitors := setIn w.monitors m Monitor.empty }
    pure (.ok .null)
  | .monitorDrop m => some do
    -- a dropped monitor is named as it was made: `$` here is a name like any other
    let w ← get
    if (lookupIn w.monitors m).isNone then misuse "no monitor"
    modify fun w => { w with monitors := eraseIn w.monitors m }
    pure (.ok .null)
  | .observer o actions => some do
    modify fun w => { w with observers := setIn w.observers o ⟨o, actions⟩ }
    pure (.ok .null)
  | .monitorStart m obs target => some do
    let obs ← need obs
    let ob ← match lookupIn (← get).observers obs with
      | some ob => pure ob
      | none => misuse "no observer"
    let fd ← lastNumber ctx (← need target)
    let ref ← monitorRef m
    let mon ← getMonitor ref
    setMonitor ref (← orFail (mon.start ob fd))
    pure (.ok .null)
  | .monitorStop m target => some do
    let fd ← lastNumber ctx (← need target)
    let ref ← monitorRef m
    let mon ← getMonitor ref
    setMonitor ref (← orFail (mon.stop fd))
    pure (.ok .null)
  | .monitorIs m target => some do
    let fd ← lastNumber ctx (← need target)
    let ref ← monitorRef m
    let mon ← getMonitor ref
    pure (.ok (.bool (mon.isMonitored fd)))
  | .monitorInfo m => some do
    let ref ← monitorRef m
    let mon ← getMonitor ref
    let w ← get
    pure (.ok (monitorInfo w mon))
  | _ => none

end Act
end Session
end Descriptors
