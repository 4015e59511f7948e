set_option autoImplicit false
set_option relaxedAutoImplicit false

namespace StreamRelay.Tls.Modular

def powerIn (m : Nat) : Nat → Nat → Nat → Nat
  | 0, _, _ => 1 % m
  | bits + 1, base, exponent =>
    let rest := powerIn m bits (base * base % m) (exponent / 2)
    if exponent % 2 = 1 then base * rest % m else rest

def power (m base exponent : Nat) : Nat := powerIn m (exponent.log2 + 1) (base % m) exponent

def inverse (p n : Nat) : Nat := power p n (p - 2)

end StreamRelay.Tls.Modular
