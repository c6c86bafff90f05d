import PromptContract.Libraries.Evaluation.Member

/-!
# Numbers of arguments

How many arguments the members of values take at least and at most (`Member.counts?`). Most members
of a name take the same number, whatever they are members of.
-/

namespace PromptContract.Member

/-- The members of a name that take numbers of arguments between two, the same for all values. -/
def sharedCounts : List ((Nat × Nat) × List String) :=
  [((0, 0), words ("__abs__ __bool__ __bytes__ __ceil__ __complex__ __float__ __floor__ "
      ++ "__getnewargs__ __getstate__ __hash__ __index__ __int__ __invert__ __iter__ __len__ "
      ++ "__length_hint__ __neg__ __next__ __pos__ __reduce__ __repr__ __reversed__ __sizeof__ "
      ++ "__str__ __trunc__ as_integer_ratio bit_count bit_length capitalize casefold clear close "
      ++ "conjugate copy is_integer isalnum isalpha isascii isdecimal isdigit isidentifier islower "
      ++ "isnumeric isprintable isspace istitle isupper items keys lower popitem reverse swapcase "
      ++ "title upper values")),
    ((1, 1), words ("__add__ __and__ __class_getitem__ __contains__ __delitem__ __divmod__ __eq__ "
      ++ "__floordiv__ __format__ __ge__ __getattribute__ __getitem__ __gt__ __iadd__ __iand__ "
      ++ "__imul__ __ior__ __isub__ __ixor__ __le__ __lshift__ __lt__ __mod__ __mul__ __ne__ "
      ++ "__or__ __radd__ __rand__ __rdivmod__ __rfloordiv__ __rlshift__ __rmod__ __rmul__ "
      ++ "__ror__ __rrshift__ __rshift__ __rsub__ __rtruediv__ __rxor__ __sub__ __truediv__ "
      ++ "__xor__ __getformat__ add add_note append discard extend format_map indices isdisjoint "
      ++ "issubset issuperset join partition remove removeprefix removesuffix rpartition send "
      ++ "symmetric_difference symmetric_difference_update with_traceback zfill")),
    ((0, 1), words "__round__ expandtabs lstrip rstrip splitlines strip"),
    ((0, 2), words "decode encode hex rsplit split"),
    ((0, 3), words "to_bytes"),
    ((1, 2), words "__pow__ __rpow__ center get ljust rjust setdefault"),
    ((1, 3), words "count endswith find index rfind rindex startswith throw"),
    ((2, 2), words "__setitem__ insert"),
    ((2, 3), words "replace")]

/-- The members for which the values of a type have numbers of their own. -/
def ownCounts : BuiltinType → List (String × Nat × Nat)
  | .list => [("pop", 0, 1), ("count", 1, 1)]
  | .tuple => [("count", 1, 1)]
  | .dict => [("pop", 1, 2)]
  | .set => [("pop", 0, 0)]
  | .float => [("hex", 0, 0)]
  | .str => [("translate", 1, 1), ("maketrans", 1, 3)]
  | .bytes => [("translate", 1, 2), ("maketrans", 2, 2)]
  | .other "bytearray" => [("translate", 1, 2), ("maketrans", 2, 2), ("pop", 0, 1)]
  | .other "range" => [("count", 1, 1), ("index", 1, 1)]
  | _ => []

/-- The least and the greatest number of arguments that a member of a value of a type takes, where
they are known. -/
def counts? (t : BuiltinType) (name : String) : Option (Nat × Nat) :=
  ((ownCounts t).lookup name).or ((sharedCounts.find? (·.2.contains name)).map (·.1))

/-- Whether a member of a value of a type may take some numbers of arguments by place and by
name. -/
def mayTake (t : BuiltinType) (name : String) (placed named : Nat) : Bool :=
  match counts? t name with
  | some (least, most) => least ≤ placed + named && placed + named ≤ most
  | none => !(name == "update" && t == .dict && 1 < placed || name == "sort" && 0 < placed)

end PromptContract.Member
