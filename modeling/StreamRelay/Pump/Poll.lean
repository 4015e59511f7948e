import StreamRelay.Pump.Basic

set_option autoImplicit false
set_option relaxedAutoImplicit false

namespace StreamRelay.Pump

/-- The scope of a session, and connections that answer calls or have no answer yet. -/
structure Surroundings (W : Type) where
  cancelled : W → Bool
  cancel : W → W
  respond : (call : Call) → W → Option call.Answer × W

variable {W : Type}

def converse (s : Surroundings W) : Nat → Pump → W → Pump × List Note × W
  | 0, pump, w => (pump, [], w)
  | budget + 1, pump, w =>
    match pump.call? with
    | none => (pump, [], w)
    | some call =>
      match s.respond call w with
      | (none, w) => (pump, [], w)
      | (some answer, w) =>
        let (pump, notes) := pump.resume (s.cancelled w) call answer
        let (pump, more, w) := converse s budget pump w
        (pump, notes ++ more, w)

/-- One poll of a pump, in which so many calls are answered at most. -/
def poll (s : Surroundings W) (budget : Nat) (pump : Pump) (w : W) : Pump × List Note × W :=
  match pump.exit? with
  | some _ => (pump, [], w)
  | none =>
    let (pump, notes, w) := converse s budget (pump.heed (s.cancelled w)) w
    match pump.exit? with
    | some exit => (pump, notes ++ [.stopped pump.total exit], s.cancel w)
    | none => (pump, notes, w)

end StreamRelay.Pump
