/-!
Powers of natural numbers. They are the core library's, also where another instance is in scope, so
that a bound such as `2 ^ 63` is the same term in every module.
-/

attribute [instance (high), default_instance 20000] instPowNat
