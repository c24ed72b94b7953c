/-! Powers of numbers. Where more than one meaning of a power is at hand, that of repeated
multiplication in the core library is taken, so that a definition says the same whatever else is
imported beside it. -/

attribute [instance (20000), default_instance 20000] instPowNat
