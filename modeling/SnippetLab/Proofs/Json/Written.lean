import SnippetLab.Proofs.Json.Tokens

/-!
# Written values are read back

What a value is written as is read back as that value, member by member and item by item, if arrays
and objects are not nested beyond the limit.  **Two things come between**: a double is read back as
whatever its shortest decimal is read as, and an object has to have its members in order.

* `WellFormed` — the values there are: integers of 64 bits, finite doubles, objects in order.
* `reread?` — a value with every double read back from how it is written; `reread?_eq_self_iff` says
  when that is the value itself.
* `readAs_write` — a value is written as its tokens.
* `Builder.takeAll_tokensOf` — the tokens of a value are the value, unless it is nested too deep.
* `readDocument?_write` — **what is read of an object that is written**.
-/

namespace SnippetLab.Json

open Decimal

/-! ## Values -/

/-- **The values there are.** -/
inductive WellFormed : Json → Prop where
  | null : WellFormed .null
  | bool (b : Bool) : WellFormed (.bool b)
  /-- An integer has 64 bits, with a sign or without. -/
  | int {n : Int} (low : -(signedWordBound : Int) ≤ n) (high : n < wordBound) : WellFormed (.int n)
  | double {bits : UInt64} {negative : Bool} {b : Binary}
      (finite : Decimal.Reading.ofBits bits = .finite negative b) : WellFormed (.double bits)
  | str (t : Text) : WellFormed (.str t)
  | arr {items : List Json} (all : ∀ item ∈ items, WellFormed item) : WellFormed (.arr items)
  /-- The members of an object are in the order of their names. -/
  | obj {members : List (Text × Json)} (sorted : members.Pairwise fun m n => m.1 < n.1)
      (all : ∀ m ∈ members, WellFormed m.2) : WellFormed (.obj members)

mutual

/-- **A value with every double read back from how it is written.** -/
def reread? : Json → Option Json
  | .double bits => number? (doubleText bits)
  | .arr items => (rereadItems? items).map .arr
  | .obj members => (rereadMembers? members).map .obj
  | v => some v

/-- The items of an array. -/
def rereadItems? : List Json → Option (List Json)
  | [] => some []
  | item :: rest =>
    (reread? item).bind fun item => (rereadItems? rest).map (item :: ·)

/-- The members of an object. -/
def rereadMembers? : List (Text × Json) → Option (List (Text × Json))
  | [] => some []
  | (name, value) :: rest =>
    (reread? value).bind fun value => (rereadMembers? rest).map ((name, value) :: ·)

end

/-- **A double that is read back as itself.** -/
def ReadsBack (bits : UInt64) : Prop := number? (doubleText bits) = some (.double bits)

mutual

/-- The doubles in a value. -/
def doubles : Json → List UInt64
  | .double bits => [bits]
  | .arr items => itemDoubles items
  | .obj members => memberDoubles members
  | _ => []

/-- The doubles in the items of an array. -/
def itemDoubles : List Json → List UInt64
  | [] => []
  | item :: rest => doubles item ++ itemDoubles rest

/-- The doubles in the members of an object. -/
def memberDoubles : List (Text × Json) → List UInt64
  | [] => []
  | (_, value) :: rest => doubles value ++ memberDoubles rest

end

mutual

/-- The tokens of a value. -/
def tokensOf : Json → List Token
  | .str t => [.string t]
  | .arr [] => [.openArray, .closeArray]
  | .arr (item :: rest) => .openArray :: (tokensOf item ++ (itemTokens rest ++ [.closeArray]))
  | .obj [] => [.openObject, .closeObject]
  | .obj ((name, value) :: rest) =>
    .openObject :: .string name :: .colon ::
      (tokensOf value ++ (memberTokens rest ++ [.closeObject]))
  | v => [.scalar v]

/-- The tokens of the items of an array behind the first. -/
def itemTokens : List Json → List Token
  | [] => []
  | item :: rest => .comma :: (tokensOf item ++ itemTokens rest)

/-- The tokens of the members of an object behind the first. -/
def memberTokens : List (Text × Json) → List Token
  | [] => []
  | (name, value) :: rest =>
    .comma :: .string name :: .colon :: (tokensOf value ++ memberTokens rest)

end

mutual

/-- How deep arrays and objects are nested in a value. -/
def nesting : Json → Nat
  | .arr items => nestingItems items + 1
  | .obj members => nestingMembers members + 1
  | _ => 0

/-- How deep they are nested in the items of an array. -/
def nestingItems : List Json → Nat
  | [] => 0
  | item :: rest => max (nesting item) (nestingItems rest)

/-- How deep they are nested in the members of an object. -/
def nestingMembers : List (Text × Json) → Nat
  | [] => 0
  | (_, value) :: rest => max (nesting value) (nestingMembers rest)

end

/-! ## Reading tokens -/

/-- **A text is read as some tokens** if a mark or nothing follows; nothing if it cannot be read. -/
def ReadAs (t : Text) (tokens : Option (List Token)) : Prop :=
  ∀ rest, EndsValue rest → tokensFrom? .between (t ++ rest) =
    tokens.bind fun read => (tokensFrom? .between rest).map (read ++ ·)

/-- A text that is empty or begins with a mark that ends a value. -/
lemma EndsValue.append {t rest : Text} (h : EndsValue t) (h' : EndsValue rest) :
    EndsValue (t ++ rest) := by
  cases t with
  | nil => exact h'
  | cons c r => exact endsValue_cons (h c rfl) (r ++ rest)

/-- Pieces with a comma before each begin with a mark. -/
lemma endsValue_flatMap (pieces : List Text) : EndsValue (pieces.flatMap (',' :: ·)) := by
  cases pieces with
  | nil => exact endsValue_nil
  | cons p ps => exact endsValue_cons (.inl rfl) _

namespace ReadAs

lemma of_eq {t : Text} {tokens others : Option (List Token)} (h : ReadAs t tokens)
    (same : others = tokens) : ReadAs t others := same ▸ h

lemma nil : ReadAs [] (some []) := by
  intro rest _
  show _ = Option.map _ _
  exact Option.map_id'.symm

lemma mark {c : Char} {token : Token} (begun : begin? c = some (.between, [token])) {t : Text}
    {tokens : Option (List Token)} (h : ReadAs t tokens) :
    ReadAs (c :: t) (tokens.map (token :: ·)) := by
  intro rest ends
  rw [List.cons_append, tokensFrom?_mark _ begun, h rest ends]
  cases tokens with
  | none => rfl
  | some read => simp only [Option.bind_some, Option.map_some, Option.map_map]; rfl

lemma append {t r : Text} {first later : Option (List Token)} (h : ReadAs t first)
    (h' : ReadAs r later) (ends : EndsValue r) :
    ReadAs (t ++ r) (first.bind fun read => later.map (read ++ ·)) := by
  intro rest ends'
  rw [List.append_assoc, h (r ++ rest) (ends.append ends'), h' rest ends']
  cases first with
  | none => rfl
  | some read =>
      cases later with
      | none => rfl
      | some more =>
          simp only [Option.bind_some, Option.map_some, Option.map_map, Function.comp_def,
            List.append_assoc]

lemma quote (t : Text) : ReadAs (quote t) (some [.string t]) := by
  intro rest _
  exact tokensFrom?_quote t rest

lemma scalar {t : Text} {value : Option Json}
    (read : ∀ rest, EndsValue rest → tokensFrom? .between (t ++ rest) = scalarThen value rest) :
    ReadAs t (value.map fun v => [.scalar v]) := by
  intro rest ends
  rw [read rest ends]
  cases value with
  | none => rfl
  | some v => rfl

lemma number {t : Text} (numeral : IsNumeral t) :
    ReadAs t ((number? t).map fun v => [.scalar v]) :=
  scalar fun _ ends => tokensFrom?_number numeral ends

/-- A member: its name, a colon and its value. -/
lemma member (name : Text) {t : Text} {tokens : Option (List Token)} (h : ReadAs t tokens) :
    ReadAs (member name t) (tokens.map fun read => .string name :: .colon :: read) := by
  intro rest ends
  have colon := h.mark (c := ':') rfl
  rw [Json.member, List.append_assoc, tokensFrom?_quote, colon rest ends]
  cases tokens with
  | none => rfl
  | some read => simp only [Option.bind_some, Option.map_some, Option.map_map]; rfl

end ReadAs

/-- A number: an integer or a double. -/
inductive IsNumber : Json → Prop where
  | int (n : Int) : IsNumber (.int n)
  | double (bits : UInt64) : IsNumber (.double bits)

lemma isNumber_of_toDouble? {s : Significand} {negative : Bool} {v : Json}
    (h : s.toDouble? negative = some v) : IsNumber v := by
  obtain ⟨x, -, rfl⟩ := Option.map_eq_some_iff.1 h
  exact .double _

/-- **What is read as a number is one.** -/
lemma isNumber_of_number? {t : Text} {v : Json} (h : number? t = some v) : IsNumber v := by
  have whole {negative : Bool} {s : Significand} (h : integer? negative s = some v) :
      IsNumber v := by
    unfold integer? at h
    split at h
    · exact isNumber_of_toDouble? h
    · split at h
      · cases h
        exact .int _
      · split at h
        · cases h
          exact .int _
        · exact isNumber_of_toDouble? h
  have scaled {negative down : Bool} {s : Significand} {digits : Text}
      (h : withExponent? negative s down digits = some v) : IsNumber v := by
    unfold withExponent? at h
    split at h
    · exact isNumber_of_toDouble? h
    · split at h
      · cases h
      · cases h
        exact .double _
  unfold number? at h
  split at h
  split at h
  split at h
  split at h
  · dsimp only at h
    split at h
    · exact whole h
    · exact isNumber_of_toDouble? h
    · obtain ⟨parts, -, h⟩ := Option.bind_eq_some_iff.1 h
      exact scaled h
  · cases h

lemma IsNumber.tokensOf {v : Json} (h : IsNumber v) : tokensOf v = [.scalar v] := by
  cases h with
  | int n => rfl
  | double bits => rfl

namespace ReadAs

section Pieces

variable {t : Text} {pieces : List Text} {first later : Option (List Token)}

/-- A piece and those behind it, with a comma before each. -/
lemma behind (h : ReadAs t first) (h' : ReadAs (pieces.flatMap (',' :: ·)) later) :
    ReadAs ((t :: pieces).flatMap (',' :: ·))
      (first.bind fun read => later.map fun more => .comma :: (read ++ more)) := by
  have read := mark (c := ',') rfl (h.append h' (endsValue_flatMap pieces))
  rw [List.flatMap_cons]
  refine read.of_eq ?_
  cases first with
  | none => rfl
  | some read =>
      cases later with
      | none => rfl
      | some more => rfl

/-- Pieces with commas between them and marks around them. -/
lemma enclosed {c d : Char} {opening closing : Token}
    (begun : begin? c = some (.between, [opening])) (ended : begin? d = some (.between, [closing]))
    (last : d = ']' ∨ d = '\x7d') (h : ReadAs t first)
    (h' : ReadAs (pieces.flatMap (',' :: ·)) later) :
    ReadAs (c :: (Text.join "," (t :: pieces) ++ [d]))
      (first.bind fun read => later.map fun more => opening :: (read ++ (more ++ [closing]))) := by
  have ends : EndsValue [d] := endsValue_cons (.inr last) []
  have read := mark begun
    (h.append (h'.append (mark ended .nil) ends) ((endsValue_flatMap pieces).append ends))
  have joined : Text.join "," (t :: pieces) = t ++ pieces.flatMap (',' :: ·) :=
    Text.join_cons "," t pieces
  rw [joined, List.append_assoc]
  refine read.of_eq ?_
  cases first with
  | none => rfl
  | some read =>
      cases later with
      | none => rfl
      | some more => rfl

end Pieces

end ReadAs

mutual

/-- **A value is written as its tokens**, with doubles as they are read. -/
theorem readAs_write (v : Json) (h : WellFormed v) :
    ReadAs (write v) ((reread? v).map tokensOf) := by
  cases h with
  | null => exact .scalar fun _ ends => tokensFrom?_constant rfl (List.all_eq_true.1 rfl) ends
  | bool b =>
      cases b with
      | true => exact .scalar fun _ ends => tokensFrom?_constant rfl (List.all_eq_true.1 rfl) ends
      | false => exact .scalar fun _ ends => tokensFrom?_constant rfl (List.all_eq_true.1 rfl) ends
  | @int n low high =>
      have read := ReadAs.number (.ofInt n)
      rw [number?_ofInt low high] at read
      exact read
  | @double bits negative b finite =>
      have same : (reread? (.double bits)).map tokensOf =
          (number? (doubleText bits)).map fun v => [.scalar v] := by
        rw [reread?]
        cases found : number? (doubleText bits) with
        | none => rfl
        | some v => exact congrArg some (isNumber_of_number? found).tokensOf
      rw [same]
      exact .number (isNumeral_doubleText finite)
  | str t => exact .quote t
  | @arr items all =>
      cases items with
      | nil => exact .mark rfl (.mark rfl .nil)
      | cons item rest =>
          have first := readAs_write item (all item List.mem_cons_self)
          have later := readAs_items rest fun v mem => all v (List.mem_cons_of_mem item mem)
          refine (ReadAs.enclosed (c := '[') (d := ']') rfl rfl (.inl rfl) first later).of_eq ?_
          rw [reread?, rereadItems?]
          cases reread? item with
          | none => rfl
          | some value =>
              cases rereadItems? rest with
              | none => rfl
              | some values => rfl
  | @obj members sorted all => exact readAs_object members all

/-- An object, in order or not. -/
theorem readAs_object (members : List (Text × Json)) (h : ∀ m ∈ members, WellFormed m.2) :
    ReadAs (write (.obj members)) ((reread? (.obj members)).map tokensOf) := by
  cases members with
  | nil => exact .mark rfl (.mark rfl .nil)
  | cons m rest =>
      have value := readAs_write m.2 (h m List.mem_cons_self)
      have later := readAs_members rest fun n mem => h n (List.mem_cons_of_mem m mem)
      refine (ReadAs.enclosed (c := '\x7b') (d := '\x7d') rfl rfl (.inr rfl)
        (value.member m.1) later).of_eq ?_
      rw [reread?, rereadMembers?]
      cases reread? m.2 with
      | none => rfl
      | some value =>
          cases rereadMembers? rest with
          | none => rfl
          | some values => rfl

/-- The items behind the first. -/
theorem readAs_items (items : List Json) (h : ∀ item ∈ items, WellFormed item) :
    ReadAs ((writeItems items).flatMap (',' :: ·)) ((rereadItems? items).map itemTokens) := by
  cases items with
  | nil => exact .nil
  | cons item rest =>
      have first := readAs_write item (h item List.mem_cons_self)
      have later := readAs_items rest fun v mem => h v (List.mem_cons_of_mem item mem)
      refine (first.behind later).of_eq ?_
      rw [rereadItems?]
      cases reread? item with
      | none => rfl
      | some value =>
          cases rereadItems? rest with
          | none => rfl
          | some values => rfl

/-- The members behind the first. -/
theorem readAs_members (members : List (Text × Json)) (h : ∀ m ∈ members, WellFormed m.2) :
    ReadAs ((writeMembers members).flatMap (',' :: ·))
      ((rereadMembers? members).map memberTokens) := by
  cases members with
  | nil => exact .nil
  | cons m rest =>
      have value := readAs_write m.2 (h m List.mem_cons_self)
      have later := readAs_members rest fun v mem => h v (List.mem_cons_of_mem m mem)
      refine ((value.member m.1).behind later).of_eq ?_
      rw [rereadMembers?]
      cases reread? m.2 with
      | none => rfl
      | some value =>
          cases rereadMembers? rest with
          | none => rfl
          | some values => rfl

end

/-! ## Building values -/

/-- **The members of every object are in the order of their names.** -/
inductive Ordered : Json → Prop where
  | leaf {v : Json} (flat : nesting v = 0) : Ordered v
  | arr {items : List Json} (all : ∀ item ∈ items, Ordered item) : Ordered (.arr items)
  | obj {members : List (Text × Json)} (sorted : members.Pairwise fun m n => m.1 < n.1)
      (all : ∀ m ∈ members, Ordered m.2) : Ordered (.obj members)

/-- A value with its members as written. -/
def documentOf (v : Json) : Document :=
  ⟨v, match v with
    | .obj members => members
    | _ => []⟩

/-- A row whose name comes behind all others goes to the end. -/
lemma set_of_forall_lt {α : Type} {name : Text} {table : NameTable α}
    (behind : ∀ row ∈ table, row.1 < name) (a : α) :
    NameTable.set name a table = table ++ [(name, a)] := by
  induction table with
  | nil => rfl
  | cons row rest ih =>
      obtain ⟨here, later⟩ := List.forall_mem_cons.1 behind
      have other : name ≠ row.1 := by
        rintro rfl
        exact List.lt_irrefl row.1 here
      rw [NameTable.set, if_neg other, if_neg (List.lt_asymm here), ih later]
      rfl

/-- **Rows in the order of their names are a table already.** -/
lemma ofRows_of_sorted {α : Type} {rows : List (Text × α)}
    (sorted : rows.Pairwise fun m n => m.1 < n.1) : NameTable.ofRows rows = rows := by
  have onto (table rows : List (Text × α))
      (sorted : (table ++ rows).Pairwise fun m n => m.1 < n.1) :
      rows.foldl (fun table row => NameTable.set row.1 row.2 table) table = table ++ rows := by
    induction rows generalizing table with
    | nil => exact (List.append_nil table).symm
    | cons row rest ih =>
        have behind : ∀ other ∈ table, other.1 < row.1 := fun other mem =>
          (List.pairwise_append.1 sorted).2.2 other mem row List.mem_cons_self
        rw [List.append_cons] at sorted ⊢
        rw [List.foldl_cons, set_of_forall_lt behind]
        exact ih _ sorted
  exact onto [] rows sorted

namespace Builder

/-- Take some tokens, one after another. -/
def takeAll (b : Builder) (tokens : List Token) : Option Builder := tokens.foldlM next? b

lemma takeAll_cons (b : Builder) (token : Token) (rest : List Token) :
    b.takeAll (token :: rest) = (b.next? token).bind fun b => b.takeAll rest := rfl

lemma takeAll_append (b : Builder) (tokens rest : List Token) :
    b.takeAll (tokens ++ rest) = (b.takeAll tokens).bind fun b => b.takeAll rest :=
  List.foldlM_append

/-- Where a value may stand, an array's end aside. -/
def AtValue : Expectation → Prop
  | .value | .firstItem => True
  | _ => False

lemma next?_atValue {stack : List Frame} {e : Expectation} (at' : AtValue e) {token : Token}
    (opens : token ≠ .closeArray) : next? ⟨stack, e⟩ token = value? stack token := by
  cases e with
  | value => cases token <;> rfl
  | firstItem =>
      cases token with
      | closeArray => exact absurd rfl opens
      | _ => rfl
  | _ => cases at'

/-- **No array or object is opened beyond the limit.** -/
lemma takeAll_of_full {stack : List Frame} {e : Expectation} (at' : AtValue e)
    (full : ¬stack.length < depthLimit) {token : Token}
    (opens : token = .openArray ∨ token = .openObject) (rest : List Token) :
    takeAll ⟨stack, e⟩ (token :: rest) = none := by
  have closed : next? ⟨stack, e⟩ token = none := by
    rcases opens with rfl | rfl
    · exact (next?_atValue at' (by simp)).trans (if_neg full)
    · exact (next?_atValue at' (by simp)).trans (if_neg full)
  rw [takeAll_cons, closed]
  rfl

/-- A token that is a value by itself. -/
lemma takeAll_singleton {stack : List Frame} {e : Expectation} (at' : AtValue e) {token : Token}
    {document : Document} (opens : token ≠ .closeArray)
    (value : value? stack token = some (supply stack document)) :
    takeAll ⟨stack, e⟩ [token] = some (supply stack document) := by
  rw [takeAll_cons, next?_atValue at' opens, value]
  rfl

/-- Two parts, each of which is there if it fits. -/
lemma bind_of_fits {α β : Type} {p q r : Prop} [Decidable p] [Decidable q] [Decidable r]
    {first : Option α} {later : α → Option β} {a : α} {b : β}
    (h : first = if p then some a else none) (h' : later a = if q then some b else none)
    (both : r ↔ p ∧ q) : first.bind later = if r then some b else none := by
  by_cases fits : p
  · rw [h, if_pos fits, Option.bind_some, h', if_congr both rfl rfl]
    simp only [fits, true_and]
  · rw [h, if_neg fits, if_neg fun all => fits (both.1 all).1]
    rfl

mutual

/-- **The tokens of a value are the value**, unless it is nested too deep. -/
theorem takeAll_tokensOf (v : Json) (h : Ordered v) (stack : List Frame) {e : Expectation}
    (at' : AtValue e) (room : stack.length ≤ depthLimit) :
    takeAll ⟨stack, e⟩ (tokensOf v) =
      if stack.length + nesting v ≤ depthLimit then
        some (supply stack (documentOf v))
      else none := by
  cases h with
  | leaf flat =>
      rw [flat, Nat.add_zero, if_pos room]
      cases v with
      | null => exact takeAll_singleton at' (by simp) rfl
      | bool b => exact takeAll_singleton at' (by simp) rfl
      | int n => exact takeAll_singleton at' (by simp) rfl
      | double bits => exact takeAll_singleton at' (by simp) rfl
      | str t => exact takeAll_singleton at' (by simp) rfl
      | arr items => simp [nesting] at flat
      | obj members => simp [nesting] at flat
  | @arr items all => exact takeAll_array items all stack at'
  | @obj members sorted all =>
      rw [takeAll_object members all stack at', supplyObject, List.reverse_reverse, object,
        ofRows_of_sorted sorted]
      rfl

/-- The tokens of an array. -/
theorem takeAll_array (items : List Json) (h : ∀ item ∈ items, Ordered item)
    (stack : List Frame) {e : Expectation} (at' : AtValue e) :
    takeAll ⟨stack, e⟩ (tokensOf (.arr items)) =
      if stack.length + nesting (.arr items) ≤ depthLimit then
        some (supplyValue stack (.arr items))
      else none := by
  by_cases room : stack.length < depthLimit
  · have opened : next? ⟨stack, e⟩ .openArray = some ⟨.array [] :: stack, .firstItem⟩ :=
      (next?_atValue at' (by simp)).trans (if_pos room)
    cases items with
    | nil =>
        rw [tokensOf, takeAll_cons, opened, nesting, nestingItems, if_pos (by omega)]
        rfl
    | cons item rest =>
        have first := takeAll_tokensOf item (h item List.mem_cons_self)
          (.array [] :: stack) (e := .firstItem) trivial room
        have later := takeAll_itemTokens rest
          (fun v mem => h v (List.mem_cons_of_mem item mem)) room [item]
        rw [tokensOf, takeAll_cons, opened, Option.bind_some, takeAll_append]
        refine bind_of_fits first later ?_
        rw [List.length_cons, nesting, nestingItems]
        omega
  · rw [if_neg (by rw [nesting]; omega)]
    cases items with
    | nil => exact takeAll_of_full at' room (.inl rfl) _
    | cons item rest => exact takeAll_of_full at' room (.inl rfl) _

/-- The tokens of an object, in order or not. -/
theorem takeAll_object (members : List (Text × Json)) (h : ∀ m ∈ members, Ordered m.2)
    (stack : List Frame) {e : Expectation} (at' : AtValue e) :
    takeAll ⟨stack, e⟩ (tokensOf (.obj members)) =
      if stack.length + nesting (.obj members) ≤ depthLimit then
        some (supplyObject stack members.reverse)
      else none := by
  by_cases room : stack.length < depthLimit
  · have opened : next? ⟨stack, e⟩ .openObject = some ⟨stack, .firstName⟩ :=
      (next?_atValue at' (by simp)).trans (if_pos room)
    cases members with
    | nil =>
        rw [tokensOf, takeAll_cons, opened, nesting, nestingMembers, if_pos (by omega)]
        rfl
    | cons m rest =>
        have value := takeAll_tokensOf m.2 (h m List.mem_cons_self)
          (.object [] m.1 :: stack) (e := .value) trivial room
        have later := takeAll_memberTokens rest
          (fun n mem => h n (List.mem_cons_of_mem m mem)) room [m]
        have named (tokens : List Token) :
            takeAll ⟨stack, .firstName⟩ (.string m.1 :: .colon :: tokens) =
              takeAll ⟨.object [] m.1 :: stack, .value⟩ tokens := rfl
        rw [tokensOf, takeAll_cons, opened, Option.bind_some, named, takeAll_append,
          List.reverse_cons]
        refine bind_of_fits value later ?_
        rw [List.length_cons, nesting, nestingMembers]
        omega
  · rw [if_neg (by rw [nesting]; omega)]
    cases members with
    | nil => exact takeAll_of_full at' room (.inr rfl) _
    | cons m rest => exact takeAll_of_full at' room (.inr rfl) _

/-- The items behind the first, and the end of their array. -/
theorem takeAll_itemTokens (items : List Json) (h : ∀ item ∈ items, Ordered item)
    {stack : List Frame} (room : stack.length < depthLimit) (read : List Json) :
    takeAll ⟨.array read :: stack, .afterItem⟩ (itemTokens items ++ [.closeArray]) =
      if stack.length + 1 + nestingItems items ≤ depthLimit then
        some (supplyValue stack (.arr (read.reverse ++ items)))
      else none := by
  cases items with
  | nil =>
      rw [itemTokens, List.nil_append, takeAll_cons, nestingItems, if_pos (by omega),
        List.append_nil]
      rfl
  | cons item rest =>
      have first := takeAll_tokensOf item (h item List.mem_cons_self)
        (.array read :: stack) (e := .value) trivial room
      have later := takeAll_itemTokens rest
        (fun v mem => h v (List.mem_cons_of_mem item mem)) room (item :: read)
      have comma : next? ⟨.array read :: stack, .afterItem⟩ .comma =
        some ⟨.array read :: stack, .value⟩ := rfl
      rw [List.reverse_cons, List.append_assoc, List.singleton_append] at later
      rw [itemTokens, List.cons_append, takeAll_cons, comma, Option.bind_some, List.append_assoc,
        takeAll_append]
      refine bind_of_fits first later ?_
      rw [List.length_cons, nestingItems]
      omega

/-- The members behind the first, and the end of their object. -/
theorem takeAll_memberTokens (members : List (Text × Json)) (h : ∀ m ∈ members, Ordered m.2)
    {stack : List Frame} (room : stack.length < depthLimit) (read : List (Text × Json)) :
    takeAll ⟨stack, .afterMember read⟩ (memberTokens members ++ [.closeObject]) =
      if stack.length + 1 + nestingMembers members ≤ depthLimit then
        some (supplyObject stack (members.reverse ++ read))
      else none := by
  cases members with
  | nil =>
      rw [memberTokens, List.nil_append, takeAll_cons, nestingMembers, if_pos (by omega)]
      rfl
  | cons m rest =>
      have value := takeAll_tokensOf m.2 (h m List.mem_cons_self)
        (.object read m.1 :: stack) (e := .value) trivial room
      have later := takeAll_memberTokens rest
        (fun n mem => h n (List.mem_cons_of_mem m mem)) room (m :: read)
      have named (tokens : List Token) :
          takeAll ⟨stack, .afterMember read⟩ (.comma :: .string m.1 :: .colon :: tokens) =
            takeAll ⟨.object read m.1 :: stack, .value⟩ tokens := rfl
      rw [List.reverse_cons, List.append_assoc, List.singleton_append]
      rw [memberTokens, List.cons_append, List.cons_append, List.cons_append, named,
        List.append_assoc, takeAll_append]
      refine bind_of_fits value later ?_
      rw [List.length_cons, nestingMembers]
      omega

end

end Builder

/-! ## The result -/

section Reread

lemma rereadItems?_cons {item : Json} {rest read : List Json}
    (h : rereadItems? (item :: rest) = some read) :
    ∃ v vs, read = v :: vs ∧ reread? item = some v ∧ rereadItems? rest = some vs := by
  obtain ⟨v, found, h⟩ := Option.bind_eq_some_iff.1 h
  obtain ⟨vs, found', rfl⟩ := Option.map_eq_some_iff.1 h
  exact ⟨v, vs, rfl, found, found'⟩

lemma rereadMembers?_cons {m : Text × Json} {rest read : List (Text × Json)}
    (h : rereadMembers? (m :: rest) = some read) :
    ∃ v vs, read = (m.1, v) :: vs ∧ reread? m.2 = some v ∧ rereadMembers? rest = some vs := by
  obtain ⟨v, found, h⟩ := Option.bind_eq_some_iff.1 h
  obtain ⟨vs, found', rfl⟩ := Option.map_eq_some_iff.1 h
  exact ⟨v, vs, rfl, found, found'⟩

mutual

/-- **Reading doubles again leaves the order of members and the nesting as they are.** -/
theorem ordered_of_reread? (v : Json) (h : WellFormed v) {read : Json}
    (found : reread? v = some read) : Ordered read ∧ nesting read = nesting v := by
  cases h with
  | null => cases found; exact ⟨.leaf rfl, rfl⟩
  | bool b => cases found; exact ⟨.leaf rfl, rfl⟩
  | int low high => cases found; exact ⟨.leaf rfl, rfl⟩
  | str t => cases found; exact ⟨.leaf rfl, rfl⟩
  | double finite =>
      rw [reread?] at found
      cases isNumber_of_number? found with
      | int n => exact ⟨.leaf rfl, rfl⟩
      | double bits => exact ⟨.leaf rfl, rfl⟩
  | @arr items all =>
      obtain ⟨items', inner, rfl⟩ := Option.map_eq_some_iff.1 found
      obtain ⟨ordered, nested⟩ := ordered_of_rereadItems? items all inner
      exact ⟨.arr ordered, by rw [nesting, nesting, nested]⟩
  | @obj members sorted all =>
      obtain ⟨members', inner, rfl⟩ := Option.map_eq_some_iff.1 found
      obtain ⟨ordered, nested, names⟩ := ordered_of_rereadMembers? members all inner
      rw [← List.pairwise_map (R := (· < ·)), ← names, List.pairwise_map] at sorted
      exact ⟨.obj sorted ordered, by rw [nesting, nesting, nested]⟩

theorem ordered_of_rereadItems? (items : List Json) (h : ∀ item ∈ items, WellFormed item)
    {read : List Json} (found : rereadItems? items = some read) :
    (∀ v ∈ read, Ordered v) ∧ nestingItems read = nestingItems items := by
  cases items with
  | nil =>
      cases found
      exact ⟨fun _ mem => absurd mem List.not_mem_nil, rfl⟩
  | cons item rest =>
      obtain ⟨v, vs, rfl, first, later⟩ := rereadItems?_cons found
      obtain ⟨ordered, nested⟩ := ordered_of_reread? item (h item List.mem_cons_self) first
      obtain ⟨ordered', nested'⟩ := ordered_of_rereadItems? rest
        (fun w mem => h w (List.mem_cons_of_mem item mem)) later
      exact ⟨List.forall_mem_cons.2 ⟨ordered, ordered'⟩,
        by rw [nestingItems, nestingItems, nested, nested']⟩

theorem ordered_of_rereadMembers? (members : List (Text × Json))
    (h : ∀ m ∈ members, WellFormed m.2) {read : List (Text × Json)}
    (found : rereadMembers? members = some read) :
    (∀ m ∈ read, Ordered m.2) ∧ nestingMembers read = nestingMembers members ∧
      read.map Prod.fst = members.map Prod.fst := by
  cases members with
  | nil =>
      cases found
      exact ⟨fun _ mem => absurd mem List.not_mem_nil, rfl, rfl⟩
  | cons m rest =>
      obtain ⟨v, vs, rfl, first, later⟩ := rereadMembers?_cons found
      obtain ⟨ordered, nested⟩ := ordered_of_reread? m.2 (h m List.mem_cons_self) first
      obtain ⟨ordered', nested', names⟩ := ordered_of_rereadMembers? rest
        (fun w mem => h w (List.mem_cons_of_mem m mem)) later
      refine ⟨List.forall_mem_cons.2 ⟨ordered, ordered'⟩, ?_, ?_⟩
      · rw [nestingMembers, nestingMembers, nested, nested']
      · rw [List.map_cons, List.map_cons, names]

end

mutual

/-- **A value is read back as itself exactly if its doubles are.** -/
theorem reread?_eq_self_iff (v : Json) :
    reread? v = some v ↔ ∀ bits ∈ doubles v, ReadsBack bits := by
  cases v with
  | double bits =>
      rw [reread?, doubles, List.forall_mem_singleton]
      rfl
  | arr items =>
      rw [reread?, doubles, ← rereadItems?_eq_self_iff items]
      simp
  | obj members =>
      rw [reread?, doubles, ← rereadMembers?_eq_self_iff members]
      simp
  | _ => simp [reread?, doubles]

theorem rereadItems?_eq_self_iff (items : List Json) :
    rereadItems? items = some items ↔ ∀ bits ∈ itemDoubles items, ReadsBack bits := by
  cases items with
  | nil => simp [rereadItems?, itemDoubles]
  | cons item rest =>
      rw [itemDoubles, List.forall_mem_append, ← reread?_eq_self_iff item,
        ← rereadItems?_eq_self_iff rest]
      constructor
      · intro found
        obtain ⟨v, vs, same, first, later⟩ := rereadItems?_cons found
        cases same
        exact ⟨first, later⟩
      · rintro ⟨first, later⟩
        rw [rereadItems?, first, later]
        rfl

theorem rereadMembers?_eq_self_iff (members : List (Text × Json)) :
    rereadMembers? members = some members ↔ ∀ bits ∈ memberDoubles members, ReadsBack bits := by
  cases members with
  | nil => simp [rereadMembers?, memberDoubles]
  | cons m rest =>
      rw [memberDoubles, List.forall_mem_append, ← reread?_eq_self_iff m.2,
        ← rereadMembers?_eq_self_iff rest]
      constructor
      · intro found
        obtain ⟨v, vs, same, first, later⟩ := rereadMembers?_cons found
        rw [List.cons.injEq, Prod.ext_iff] at same
        obtain ⟨⟨-, rfl⟩, rfl⟩ := same
        exact ⟨first, later⟩
      · rintro ⟨first, later⟩
        rw [rereadMembers?, first, later]
        rfl

end

/-- Only null is read as null. -/
lemma eq_null_of_reread? {v : Json} (h : reread? v = some .null) : v = .null := by
  cases v with
  | null => rfl
  | double bits => cases isNumber_of_number? h
  | arr items => simp [reread?] at h
  | obj members => simp [reread?] at h
  | _ => cases h

/-! ### Members without doubles -/

/-- **A value that is neither made of others nor a double.** -/
inductive Plain : Json → Prop where
  | null : Plain .null
  | bool (b : Bool) : Plain (.bool b)
  | int {n : Int} (low : -(signedWordBound : Int) ≤ n) (high : n < wordBound) : Plain (.int n)
  | str (t : Text) : Plain (.str t)

lemma Plain.word {n : Nat} (h : n < wordBound) : Plain (.int n) := by
  have low : 0 ≤ (signedWordBound : Int) := Int.natCast_nonneg _
  exact .int (by omega) (by omega)

lemma Plain.wellFormed {v : Json} (h : Plain v) : WellFormed v := by
  cases h with
  | null => exact .null
  | bool b => exact .bool b
  | int low high => exact .int low high
  | str t => exact .str t

lemma Plain.reread? {v : Json} (h : Plain v) : reread? v = some v := by
  cases h <;> rfl

lemma Plain.nesting {v : Json} (h : Plain v) : nesting v = 0 := by
  cases h <;> rfl

variable {first : List (Text × Json)} (plain : ∀ m ∈ first, Plain m.2)
  (later : List (Text × Json))

include plain

lemma rereadMembers?_append : rereadMembers? (first ++ later) =
    (rereadMembers? later).map (first ++ ·) := by
  induction first with
  | nil => exact Option.map_id'.symm
  | cons m first ih =>
      obtain ⟨here, rest⟩ := List.forall_mem_cons.1 plain
      rw [List.cons_append, rereadMembers?, here.reread?, Option.bind_some, ih rest, Option.map_map]
      rfl

lemma nestingMembers_append : nestingMembers (first ++ later) = nestingMembers later := by
  induction first with
  | nil => rfl
  | cons m first ih =>
      obtain ⟨here, rest⟩ := List.forall_mem_cons.1 plain
      rw [List.cons_append, nestingMembers, here.nesting, ih rest, Nat.zero_max]

end Reread

/-- The document that the tokens of an object are, be its members in order or not. -/
lemma document?_tokensOf {members : List (Text × Json)} (h : ∀ m ∈ members, Ordered m.2) :
    document? (tokensOf (.obj members)) =
      if nesting (.obj members) ≤ depthLimit then some ⟨.object members, members⟩ else none := by
  have built := Builder.takeAll_object members h [] (e := .value) trivial
  rw [List.length_nil, Nat.zero_add, Builder.takeAll] at built
  rw [document?, built]
  by_cases fits : nesting (.obj members) ≤ depthLimit
  · rw [if_pos fits, if_pos fits, Builder.supplyObject, List.reverse_reverse]
    rfl
  · rw [if_neg fits, if_neg fits]

/-- **What is read of an object that is written**: its members, in order or not, with their doubles
as they are read; nothing if it is nested too deep. -/
theorem readDocument?_write {members : List (Text × Json)} (h : ∀ m ∈ members, WellFormed m.2) :
    readDocument? (write (.obj members)) =
      if nesting (.obj members) ≤ depthLimit then
        (rereadMembers? members).map fun read => ⟨.object read, read⟩
      else none := by
  have read := readAs_object members h [] endsValue_nil
  rw [List.append_nil, reread?] at read
  rw [readDocument?, tokens?, read]
  cases found : rereadMembers? members with
  | none => split <;> rfl
  | some members' =>
      obtain ⟨ordered, nested, -⟩ := ordered_of_rereadMembers? members h found
      have nested : nesting (.obj members') = nesting (.obj members) := by
        rw [nesting, nesting, nested]
      have tokens : (Option.map tokensOf (Option.map obj (some members'))).bind (fun read =>
          (tokensFrom? .between []).map (read ++ ·)) = some (tokensOf (.obj members')) :=
        congrArg some (List.append_nil _)
      rw [tokens, Option.bind_some, document?_tokensOf ordered, nested]
      rfl

end SnippetLab.Json
