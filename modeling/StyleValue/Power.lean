/-!
# Powers of natural numbers

A power of natural numbers is read as that of the core library, also where a library that knows
powers in every monoid is imported.
-/

attribute [instance (20000)] instPowNat

attribute [default_instance 20000] instPowNat
