import IcKit.Mock.Context

/-!
# Handler/Basic — the call handlers of `handler.rs`

The three `CallHandler` implementations: a scripted `Method` (a name filter, a list of cycle
atoms, an argument assertion and a fixed response), a `RawHandler` running a closure against a
context, and a `Canister` routing by method name to sub-handlers over a persistent context of
its own.  `CallHandler` is the closed sum of the three; a `Canister` holds `CallHandler`s.

`perform` takes the context a caller supplies (`Option<&mut MockContext>`) and returns it
updated; a `Canister`'s own context lives in its `RefCell`, so `CallHandler.perform` also
returns the handler, with that context updated.  A `Canister` hands its context to the
sub-handler it routes to; a nested `Canister` refuses it at `assert!(ctx.is_none())`, so the
delegation (`CallHandler.performOn`) never recurses.
-/

namespace IcKit

variable {TypeId : Type} {Ty : TypeId → Type}

/-- `encode_args(())`: Candid's magic `DIDL`, an empty type table, no values. -/
def encodeEmptyArgs : List UInt8 := [0x44, 0x49, 0x44, 0x4C, 0x00, 0x00]

/-! ## `Method` -/

/-- `MethodAtom`: one cycle operation of a scripted method. -/
inductive MethodAtom where
  | consumeAllCycles
  | consumeCycles (cycles : Nat)
  | refundCycles (cycles : Nat)
  deriving DecidableEq, Repr

/-- `Method`: a handler built from a list of atoms. -/
structure Method where
  name : Option String
  atoms : List MethodAtom
  expectedArgs : Option (List UInt8)
  response : Option (List UInt8)
  deriving DecidableEq, Repr

namespace Method

/-- `Method::new()`. -/
def new : Method := ⟨none, [], none, none⟩

/-- `Method::name(name)`: panics if the method already has one. -/
def setName (name : String) (m : Method) : Except Panic Method :=
  if m.name.isSome then .error .methodAlreadyNamed else .ok { m with name := some name }

/-- `Method::cycles_consume_all()`. -/
def cyclesConsumeAll (m : Method) : Method := { m with atoms := m.atoms ++ [.consumeAllCycles] }

/-- `Method::cycles_consume(cycles)`. -/
def cyclesConsume (cycles : Nat) (m : Method) : Method :=
  { m with atoms := m.atoms ++ [.consumeCycles cycles] }

/-- `Method::cycles_refund(cycles)`. -/
def cyclesRefund (cycles : Nat) (m : Method) : Method :=
  { m with atoms := m.atoms ++ [.refundCycles cycles] }

/-- `Method::expect_arguments(arguments)`, given their encoding: panics if called twice. -/
def expectArguments (encoded : List UInt8) (m : Method) : Except Panic Method :=
  if m.expectedArgs.isSome then .error .argumentsAlreadyExpected
  else .ok { m with expectedArgs := some encoded }

/-- `Method::response(value)`, given the encoding of `(value,)`: panics if called twice. -/
def setResponse (encoded : List UInt8) (m : Method) : Except Panic Method :=
  if m.response.isSome then .error .responseAlreadySet else .ok { m with response := some encoded }

/-- `CallHandler::accept` of a `Method`: its name, if it has one, must be the method called. -/
def accept (m : Method) (method : String) : Bool :=
  match m.name with
  | some name => name == method
  | none => true

end Method

/-- One atom of `Method::perform`'s loop, on the context it runs on. -/
def MethodAtom.run (s : MockState Ty) : MethodAtom → Outcome (MockState Ty) Unit
  | .consumeAllCycles => Outcome.bind (Context.msgCyclesAccept u64Max s) fun _ s => .ok () s
  | .consumeCycles cycles => Outcome.bind (Context.msgCyclesAccept cycles s) fun _ s => .ok () s
  | .refundCycles amount =>
    Outcome.bind (Context.msgCyclesAvailable s) fun cycles s =>
      if amount > cycles then .error (.cannotRefund amount cycles) s
      else Outcome.bind (Context.msgCyclesAccept (cycles - amount) s) fun _ s => .ok () s

namespace Method

/-- The `for atom in &self.atoms` loop of `Method::perform`. -/
def runAtoms : List MethodAtom → MockState Ty → Outcome (MockState Ty) Unit
  | [], s => .ok () s
  | a :: as, s => Outcome.bind (a.run s) fun _ s => runAtoms as s

/-- The context `Method::perform` runs its atoms on: the supplied one, or
`MockContext::new().with_msg_cycles(cycles)`. -/
def runContext (cycles : Nat) (ctx : Option (MockState Ty)) : MockState Ty :=
  ctx.getD (MockState.new.withMsgCycles cycles)

/-- `Method::perform` past its argument assertion: run the atoms on `runContext`, and refund
what is left available. -/
def performAtoms (m : Method) (cycles : Nat) (ctx : Option (MockState Ty)) :
    Outcome (Option (MockState Ty)) (CallResult × Nat) :=
  Outcome.mapState (fun c => ctx.map fun _ => c) <|
    Outcome.bind (runAtoms m.atoms (runContext cycles ctx)) fun _ c =>
      Outcome.bind (Context.msgCyclesAvailable c) fun refund c =>
        .ok (.ok (m.response.getD encodeEmptyArgs), refund) c

/-- `Method::perform`. -/
def perform (m : Method) (cycles : Nat) (argsRaw : List UInt8) (ctx : Option (MockState Ty)) :
    Outcome (Option (MockState Ty)) (CallResult × Nat) :=
  match m.expectedArgs with
  | some expected =>
    if expected = argsRaw then m.performAtoms cycles ctx
    else .error (.argsMismatch expected argsRaw) ctx
  | none => m.performAtoms cycles ctx

end Method

/-! ## `RawHandler` -/

/-- `RawHandler`: a closure given the context, the raw arguments, the target and the method.
It may do anything to the context it is handed, and may panic. -/
structure RawHandler (Ty : TypeId → Type) where
  handler : MockState Ty → List UInt8 → Principal → String → Outcome (MockState Ty) CallResult

/-- `RawHandler::perform`: the closure runs on the supplied context, or on a fresh one carrying
the caller, the cycles and the target's id; the refund is what is left available. -/
def RawHandler.perform (r : RawHandler Ty) (caller : Principal) (cycles : Nat)
    (canisterId : Principal) (method : String) (argsRaw : List UInt8)
    (ctx : Option (MockState Ty)) : Outcome (Option (MockState Ty)) (CallResult × Nat) :=
  Outcome.mapState (fun c => ctx.map fun _ => c) <|
    let c := ctx.getD (((MockState.new.withCaller caller).withMsgCycles cycles).withId canisterId)
    Outcome.bind (r.handler c argsRaw canisterId method) fun res c =>
      Outcome.bind (Context.msgCyclesAvailable c) fun refund c => .ok (res, refund) c

/-! ## `Canister` and the handler sum -/

/-- `Canister`, over the type `H` of its sub-handlers: its id, the `HashMap` of methods (names
are unique, see `Canister.method`), the default handler and the context in its `RefCell`. -/
structure Canister (Ty : TypeId → Type) (H : Type) where
  id : Principal
  methods : List (String × H)
  default : Option H
  context : MockState Ty

/-- `Box<dyn CallHandler>`, for the three handlers of the crate. -/
inductive CallHandler (Ty : TypeId → Type) where
  | method (m : Method)
  | raw (r : RawHandler Ty)
  | canister (c : Canister Ty (CallHandler Ty))

namespace Canister

variable {H : Type}

/-- `Canister::new(id)`. -/
def new (id : Principal) : Canister Ty H := ⟨id, [], none, MockState.new.withId id⟩

/-- `Canister::with_balance(cycles)`. -/
def withBalance (cycles : Nat) (c : Canister Ty H) : Canister Ty H :=
  { c with context := c.context.updateBalance cycles }

/-- `Canister::method(name, handler)`: panics if the name is taken. -/
def method (name : String) (handler : H) (c : Canister Ty H) : Except Panic (Canister Ty H) :=
  if (c.methods.lookup name).isSome then .error (.methodExists name c.id)
  else .ok { c with methods := c.methods ++ [(name, handler)] }

/-- `Canister::or(handler)`: panics if a default is set. -/
def or (handler : H) (c : Canister Ty H) : Except Panic (Canister Ty H) :=
  if c.default.isSome then .error (.defaultHandlerSet c.id) else .ok { c with default := some handler }

/-- The sub-handler `Canister::perform` delegates to: the table's entry for the method, else the
default. -/
def route (c : Canister Ty H) (method : String) : Option H := (c.methods.lookup method).or c.default

end Canister

/-! ## `accept` -/

mutual

/-- `CallHandler::accept`. -/
def CallHandler.accept : CallHandler Ty → Principal → String → Bool
  | .method m, _, method => m.accept method
  | .raw _, _, _ => true
  | .canister c, canisterId, method => Canister.accept c canisterId method

/-- `CallHandler::accept` of a `Canister`: the id must match, and then a default must exist or
the table's entry for the method must accept. -/
def Canister.accept : Canister Ty (CallHandler Ty) → Principal → String → Bool
  | ⟨id, methods, default, _⟩, canisterId, method =>
    id == canisterId && (default.isSome || CallHandler.acceptEntry methods canisterId method)

/-- `self.methods.get(method)` followed by that handler's `accept`, `false` when absent. -/
def CallHandler.acceptEntry : List (String × CallHandler Ty) → Principal → String → Bool
  | [], _, _ => false
  | (name, h) :: rest, canisterId, method =>
    if method == name then h.accept canisterId method
    else CallHandler.acceptEntry rest canisterId method

end

/-! ## `perform` -/

namespace CallHandler

/-- `perform` of a sub-handler that a `Canister` hands its own context: a `Method` or a
`RawHandler` runs on it, a nested `Canister` stops at `assert!(ctx.is_none())`. -/
def performOn (h : CallHandler Ty) (caller : Principal) (cycles : Nat) (canisterId : Principal)
    (method : String) (argsRaw : List UInt8) (ctx : MockState Ty) :
    Outcome (MockState Ty) (CallResult × Nat) :=
  match h with
  | .method m => Outcome.mapState (·.getD ctx) (m.perform cycles argsRaw (some ctx))
  | .raw r => Outcome.mapState (·.getD ctx) (r.perform caller cycles canisterId method argsRaw (some ctx))
  | .canister _ => .error .contextSupplied ctx

end CallHandler

/-- The canister's context as `Canister::perform` hands it on: the call's caller and cycles set
by `update_caller` and `update_msg_cycles`. -/
def Canister.callContext {H : Type} (c : Canister Ty H) (caller : Principal) (cycles : Nat) :
    MockState Ty :=
  (c.context.updateCaller caller).updateMsgCycles cycles

/-- `Canister::perform` on the canister's own context: set the caller and the cycles, delegate
to the routed sub-handler, check its refund against what is left available, and zero that. -/
def Canister.performIn (c : Canister Ty (CallHandler Ty)) (caller : Principal) (cycles : Nat)
    (canisterId : Principal) (method : String) (argsRaw : List UInt8) :
    Outcome (MockState Ty) (CallResult × Nat) :=
  match c.route method with
  | none => .error .noDefaultHandler (c.callContext caller cycles)
  | some h =>
    Outcome.bind (h.performOn caller cycles canisterId method argsRaw (c.callContext caller cycles))
      fun res ctx =>
        Outcome.bind (Context.msgCyclesAvailable ctx) fun available ctx =>
          if res.2 = available then .ok res (ctx.updateMsgCycles 0)
          else .error (.refundMismatch res.2 available) ctx

namespace CallHandler

/-- `CallHandler::perform`, returning the handler (a `Canister` with its context updated) and
the supplied context. -/
def perform (h : CallHandler Ty) (caller : Principal) (cycles : Nat) (canisterId : Principal)
    (method : String) (argsRaw : List UInt8) (ctx : Option (MockState Ty)) :
    Outcome (CallHandler Ty × Option (MockState Ty)) (CallResult × Nat) :=
  match h with
  | .method m => Outcome.mapState (h, ·) (m.perform cycles argsRaw ctx)
  | .raw r => Outcome.mapState (h, ·) (r.perform caller cycles canisterId method argsRaw ctx)
  | .canister c =>
    match ctx with
    | some ctx => .error .contextSupplied (h, some ctx)
    | none =>
      Outcome.mapState (fun context => (.canister { c with context := context }, none))
        (c.performIn caller cycles canisterId method argsRaw)

end CallHandler

end IcKit
