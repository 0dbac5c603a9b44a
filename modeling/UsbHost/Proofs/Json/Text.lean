import UsbHost.Json.Reader
import UsbHost.Proofs.Json.Layout

/-!
The texts of a JSON value: its tokens, laid out in any way. Every one of them reads back as the
value, and the compact form is one of them.
-/

namespace UsbHost.Json

/-! Tokens of a value side by side -/

theorem isChain_mark {mark : JsonToken} {tokens : List JsonToken} (notBare : ¬ IsBare mark)
    (chain : tokens.IsChain Apart) : (mark :: tokens).IsChain Apart :=
  List.isChain_cons.mpr ⟨fun _ _ bare => notBare bare.1, chain⟩

theorem isChain_around {mark : JsonToken} {before after : List JsonToken} (notBare : ¬ IsBare mark)
    (first : before.IsChain Apart) (second : after.IsChain Apart) :
    (before ++ mark :: after).IsChain Apart := by
  refine List.isChain_append.mpr ⟨first, isChain_mark notBare second, ?_⟩
  rintro last - next ⟨⟩ bare
  exact notBare bare.2

mutual

theorem isChain_tokens : (value : JsonValue) → value.tokens.IsChain Apart
  | .null | .boolean _ | .number _ | .string _ => List.isChain_singleton _
  | .array items => isChain_mark id (isChain_around id (isChain_itemTokens items) .nil)
  | .object members => isChain_mark id (isChain_around id (isChain_memberTokens members) .nil)

theorem isChain_itemTokens : (items : List JsonValue) →
    (JsonValue.itemTokens items).IsChain Apart
  | [] => .nil
  | [item] => isChain_tokens item
  | item :: next :: rest =>
    isChain_around id (isChain_tokens item) (isChain_itemTokens (next :: rest))

theorem isChain_memberTokens : (members : List (Option String × JsonValue)) →
    (JsonValue.memberTokens members).IsChain Apart
  | [] => .nil
  | [(_, value)] => isChain_mark id (isChain_mark id (isChain_tokens value))
  | (_, value) :: next :: rest =>
    isChain_around id (isChain_mark id (isChain_mark id (isChain_tokens value)))
      (isChain_memberTokens (next :: rest))

end

/-! The reader on the tokens of a value -/

theorem takeAll_firstItem {items : List JsonValue} (nonempty : items ≠ []) (stack : List Frame)
    (rest : List JsonToken) :
    takeAll (.firstItem stack) (JsonValue.itemTokens items ++ rest) =
      takeAll (.value (.items [] :: stack)) (JsonValue.itemTokens items ++ rest) := by
  obtain ⟨item, items, rfl⟩ := List.exists_cons_of_ne_nil nonempty
  cases items <;> cases item <;> rfl

theorem takeAll_firstKey {members : List (Option String × JsonValue)} (nonempty : members ≠ [])
    (stack : List Frame) (rest : List JsonToken) :
    takeAll (.firstKey stack) (JsonValue.memberTokens members ++ rest) =
      takeAll (.key stack []) (JsonValue.memberTokens members ++ rest) := by
  obtain ⟨member, members, rfl⟩ := List.exists_cons_of_ne_nil nonempty
  cases members <;> rfl

mutual

theorem takeAll_tokens (stack : List Frame) (rest : List JsonToken) : (value : JsonValue) →
    takeAll (.value stack) (value.tokens ++ rest) = takeAll (place value stack) rest
  | .null | .boolean _ | .number _ | .string _ => rfl
  | .array items => by
    by_cases nonempty : items = []
    · subst nonempty
      rfl
    · have opened : takeAll (.value stack) ((JsonValue.array items).tokens ++ rest) =
          takeAll (.firstItem stack) (JsonValue.itemTokens items ++ [.rightBracket] ++ rest) := rfl
      rw [opened, List.append_assoc, takeAll_firstItem nonempty]
      exact takeAll_items stack [] rest items nonempty
  | .object members => by
    by_cases nonempty : members = []
    · subst nonempty
      rfl
    · have opened : takeAll (.value stack) ((JsonValue.object members).tokens ++ rest) =
          takeAll (.firstKey stack) (JsonValue.memberTokens members ++ [.rightBrace] ++ rest) := rfl
      rw [opened, List.append_assoc, takeAll_firstKey nonempty]
      exact takeAll_members stack [] rest members nonempty

theorem takeAll_items (stack : List Frame) (done : List JsonValue) (rest : List JsonToken) :
    (items : List JsonValue) → items ≠ [] →
    takeAll (.value (.items done :: stack))
        (JsonValue.itemTokens items ++ .rightBracket :: rest) =
      takeAll (place (.array (done.reverse ++ items)) stack) rest
  | [], nonempty => absurd rfl nonempty
  | [item], _ => by
    rw [← List.reverse_cons]
    exact takeAll_tokens (.items done :: stack) (.rightBracket :: rest) item
  | item :: next :: items, _ => by
    have first := takeAll_tokens (.items done :: stack)
      (.comma :: (JsonValue.itemTokens (next :: items) ++ .rightBracket :: rest)) item
    have later := takeAll_items stack (item :: done) rest (next :: items) (List.cons_ne_nil _ _)
    rw [List.reverse_cons, List.append_assoc, List.singleton_append] at later
    rw [JsonValue.itemTokens.eq_def, List.append_assoc]
    exact first.trans later

theorem takeAll_members (stack : List Frame) (done : List (Option String × JsonValue))
    (rest : List JsonToken) :
    (members : List (Option String × JsonValue)) → members ≠ [] →
    takeAll (.key stack done) (JsonValue.memberTokens members ++ .rightBrace :: rest) =
      takeAll (place (.object (done.reverse ++ members)) stack) rest
  | [], nonempty => absurd rfl nonempty
  | [(key, value)], _ => by
    rw [← List.reverse_cons]
    exact takeAll_tokens (.members done key :: stack) (.rightBrace :: rest) value
  | (key, value) :: next :: members, _ => by
    have first := takeAll_tokens (.members done key :: stack)
      (.comma :: (JsonValue.memberTokens (next :: members) ++ .rightBrace :: rest)) value
    have later := takeAll_members stack ((key, value) :: done) rest (next :: members)
      (List.cons_ne_nil _ _)
    rw [List.reverse_cons, List.append_assoc, List.singleton_append] at later
    rw [JsonValue.memberTokens.eq_def, List.append_assoc]
    exact first.trans later

end

theorem ofTokens?_tokens (value : JsonValue) : ofTokens? value.tokens = some value := by
  have taken := takeAll_tokens [] [] value
  rw [List.append_nil] at taken
  rw [ofTokens?, taken]
  rfl

/-! Texts -/

def IsText (value : JsonValue) (text : String) : Prop := Layout value.tokens text.toList

theorem IsText.read {value : JsonValue} {text : String} (isText : IsText value text) :
    read text = some value := by
  rw [Json.read, Layout.tokens? isText (isChain_tokens value)]
  exact ofTokens?_tokens value

theorem isText_compact {value : JsonValue} (known : .string none ∉ value.tokens) :
    IsText value value.compact := by
  rw [IsText, JsonValue.compact, String.toList_ofList]
  exact layout_spell known

end UsbHost.Json
