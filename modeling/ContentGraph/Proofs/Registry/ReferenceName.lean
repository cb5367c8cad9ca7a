import ContentGraph.Proofs.Registry.Precedence
import ContentGraph.Proofs.Text.Word

/-!
# No two types have one reference field

The field by which references to a type are followed is named in camel case after
the type and one more word. That word is a word of its own, because a blank stands
before it, so the name is the key of the type with a suffix
(`TypeDescriptor.referenceName_eq`). Only a type without any word is an exception:
it has the empty key, and its field is named by the suffix alone, in lower case.

The types of a registry have different keys, so that their reference fields have
different names (`Build.nodup_referenceNames`).
-/

namespace ContentGraph

/-- **The words of a type and one more word**, in camel case. -/
theorem Text.camelCase_field (type : String) :
    camelCase (type ++ " field")
      = if splitWords type = [] then "field" else camelCase type ++ "Field" := by
  have hwords : splitCharacters (type ++ " field").toList
      = splitCharacters type.toList ++ ["field".toList] := by
    have hblank : " field".toList = ' ' :: "field".toList := by decide
    rw [String.toList_append, hblank, splitCharacters_append (by decide)]
    exact congrArg (splitCharacters type.toList ++ ·) (by decide)
  have hlower : lower "field".toList = "field".toList := by decide
  have hcapital : capitalizeCharacters "field".toList = "Field".toList := by decide
  rw [camelCase, hwords, joinCamel_concat, hlower, hcapital]
  simp only [splitWords_eq_nil_iff]
  split
  · exact String.ofList_toList
  · rw [String.ofList_append, String.ofList_toList]
    rfl

namespace TypeDescriptor

theorem referenceName_eq (d : TypeDescriptor) :
    d.referenceName = if Text.splitWords d.name = [] then "field" else d.key ++ "Field" :=
  Text.camelCase_field d.name

/-- A type without words has the empty key. -/
theorem key_eq_empty {d : TypeDescriptor} (h : Text.splitWords d.name = []) : d.key = "" := by
  show String.ofList (Text.joinCamel (Text.splitCharacters d.name.toList)) = _
  rw [Text.splitWords_eq_nil_iff.1 h]
  rfl

/-- No key with the suffix is the name that the suffix alone makes. -/
theorem append_ne_field (key : String) : key ++ "Field" ≠ "field" := by
  intro h
  have hlist := congrArg String.toList h
  rw [String.toList_append] at hlist
  have hlength := congrArg List.length hlist
  rw [List.length_append] at hlength
  have hnil : key.toList = [] := List.eq_nil_of_length_eq_zero (Nat.add_eq_right.1 hlength)
  rw [hnil] at hlist
  exact absurd hlist (by decide)

/-- **A reference field tells the key of its type.** -/
theorem key_eq_of_referenceName_eq {d e : TypeDescriptor}
    (h : d.referenceName = e.referenceName) : d.key = e.key := by
  rw [referenceName_eq, referenceName_eq] at h
  by_cases hd : Text.splitWords d.name = [] <;> by_cases he : Text.splitWords e.name = []
  · rw [key_eq_empty hd, key_eq_empty he]
  · rw [if_pos hd, if_neg he] at h
    exact absurd h.symm (append_ne_field e.key)
  · rw [if_neg hd, if_pos he] at h
    exact absurd h (append_ne_field d.key)
  · rw [if_neg hd, if_neg he] at h
    exact String.append_left_inj _ |>.1 h

end TypeDescriptor

namespace Build

/-- **The words of a name are cut at every separator, and the reference fields of a
registry have different names.** A separator is a low line or any other character that
stands in no word. Whatever the sides are, a text with a separator in it has the words
of its two sides, so the reference field of a type is named by the key of the type and a
suffix, or by the suffix alone if the type has no words. In the registry of a build that
ends well, whatever it is built from, no such name stands twice. -/
theorem nodup_referenceNames :
    (∀ (a b : String) (c : Char), c = '_' ∨ Text.isWordCharacter c = false →
        Text.splitWords (a ++ String.singleton c ++ b) = Text.splitWords a ++ Text.splitWords b)
      ∧ (∀ d : TypeDescriptor, d.referenceName
          = if Text.splitWords d.name = [] then "field" else Text.camelCase d.name ++ "Field")
      ∧ ∀ (c : Collection) (options : BuildOptions) (b : Build), run c options = .ok b →
          (b.registry.descriptors.map (·.referenceName)).Nodup := by
  refine ⟨fun a b c hc => Text.splitWords_append (Text.isSeparator_iff.2 hc) a b,
    TypeDescriptor.referenceName_eq, fun c options b h => ?_⟩
  have hkeys := List.pairwise_map.1 (represents_of_run h).nodup_keys
  exact List.pairwise_map.2 (hkeys.imp fun hne heq =>
    hne (TypeDescriptor.key_eq_of_referenceName_eq heq))

/-- A page, a node whose type has no words, and one whose type begins with an acronym. -/
def oddlyTypedNodes : List Node :=
  [.ofFields "a" "blog-post" [], .ofFields "b" "__" [], .ofFields "c" "HTMLNode" []]

/-- The type without words has the suffix for its reference field, and no other type has. -/
theorem referenceNames_oddlyTypedNodes :
    ('-' = '_' ∨ Text.isWordCharacter '-' = false)
      ∧ Text.splitWords ("blog" ++ String.singleton '-' ++ "post")
        = Text.splitWords "blog" ++ Text.splitWords "post"
      ∧ ∃ b, run (.ofNodes oddlyTypedNodes) ⟨.plugins [], .empty, .standard⟩ = .ok b
        ∧ b.registry.descriptors.map (·.referenceName) = ["blogPostField", "field", "htmlNodeField"]
        ∧ (b.registry.descriptors.map (·.referenceName)).Nodup := by
  obtain ⟨hwords, -, hnames⟩ := nodup_referenceNames
  have hhyphen : '-' = '_' ∨ Text.isWordCharacter '-' = false := Or.inr (by decide)
  have hrun := run_no_plugins (c := .ofNodes oddlyTypedNodes)
    (Collection.nodup_keys_iff.1 (by decide)) .empty .standard
  have hfields : ((Collection.ofNodes oddlyTypedNodes).groups.map
      fun g => finish .standard g []).map (·.referenceName)
        = ["blogPostField", "field", "htmlNodeField"] := by decide
  exact ⟨hhyphen, hwords "blog" "post" '-' hhyphen, _, hrun, hfields, hnames _ _ _ hrun⟩

end Build

end ContentGraph
