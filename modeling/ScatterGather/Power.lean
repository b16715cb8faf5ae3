/-!
# Power — which power `b ^ n` is

Widths of words, places of decimals and the grid of binary floating point are all stated with
powers of naturals and integers.  Under a larger library `b ^ n` can be read as the power of any
monoid; here it is always the one that `omega` and `decide` evaluate, so that a statement about a
definition and the definition itself speak of one term.
-/

/-- Powers with a natural exponent are those of the type's own `NatPow`, whatever else is known
of the type. -/
@[default_instance 20000]
instance (priority := 20000) powOfNatPow {α : Type} [NatPow α] : Pow α Nat := instPowNat
