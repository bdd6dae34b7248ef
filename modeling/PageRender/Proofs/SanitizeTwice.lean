import PageRender.Proofs.NestedReading
import PageRender.Proofs.PolicyInvariant

/-!
# Sanitising twice

Cleaning a cleaned fragment changes nothing, but markup is printed and read anew in between, and
what is read need not be what was printed: an element may give way to what it holds right where the
elements around it allow no such content, and line ends are made uniform when they are read, even
those that were written as references. Where what is left is nested, it is read as it was printed,
and sanitising it again changes nothing.
-/

namespace PageRender

open Html

namespace Html.Fragment

/-! ## Joining texts -/

/-- A text in front of a fragment, joined with the text that the fragment begins with. -/
def joinText (content : String) : Fragment → Fragment
  | text more rest => text (content ++ more) rest
  | rest => if content = "" then rest else text content rest

/-- A fragment as it is read from what is printed of it: texts side by side are one text, and
comments are gone. -/
def joined : Fragment → Fragment
  | nil => nil
  | text content rest => joinText content rest.joined
  | comment rest => rest.joined
  | element name attributes children rest => element name attributes children.joined rest.joined

theorem printText_append (raw : Bool) (first later : List Char) :
    printText raw (first ++ later) = printText raw first ++ printText raw later := by
  cases raw
  · exact List.flatMap_append
  · rfl

theorem print_joinText (raw : Bool) (content : String) (fragment : Fragment) :
    (joinText content fragment).print raw =
      printText raw content.toList ++ fragment.print raw := by
  have dropped : ∀ rest : Fragment, (if content = "" then rest else text content rest).print raw =
      printText raw content.toList ++ rest.print raw := by
    intro rest
    split
    · rename_i empty
      subst empty
      cases raw <;> rfl
    · rfl
  cases fragment with
  | nil => exact dropped _
  | comment rest => exact dropped _
  | element name attributes children rest => exact dropped _
  | text more rest =>
      rw [joinText, print, print, String.toList_append, printText_append, List.append_assoc]

theorem print_joined (fragment : Fragment) (raw : Bool) :
    fragment.joined.print raw = fragment.print raw := by
  induction fragment generalizing raw with
  | nil => rfl
  | text content rest ih => rw [joined, print_joinText, ih, print]
  | comment rest ih => exact ih raw
  | element name attributes children rest ihChildren ihRest =>
      rw [joined, print, print, ihChildren, ihRest]

theorem Joined.joinText {fragment : Fragment} (joined : fragment.Joined) (content : String) :
    (joinText content fragment).Joined := by
  have alone : fragment.beginsWithText = false →
      (if content = "" then fragment else text content fragment).Joined := by
    intro untexted
    split
    · exact joined
    · rename_i filled
      exact ⟨filled, untexted, joined⟩
  cases fragment with
  | nil => exact alone rfl
  | comment rest => exact alone rfl
  | element name attributes children rest => exact alone rfl
  | text more rest =>
      refine ⟨fun empty => joined.1 ?_, joined.2⟩
      exact (String.append_eq_empty_iff.mp empty).2

theorem joined_joined (fragment : Fragment) : fragment.joined.Joined := by
  induction fragment with
  | nil => trivial
  | text content rest ih => exact ih.joinText content
  | comment rest ih => exact ih
  | element name attributes children rest ihChildren ihRest => exact ⟨ihChildren, ihRest⟩

/-! ## Settled fragments -/

instance decidableLegible : (fragment : Fragment) → Decidable fragment.Legible
  | nil => inferInstanceAs (Decidable True)
  | text content rest =>
      have := decidableLegible rest
      inferInstanceAs (Decidable ('\x00' ∉ content.toList ∧ rest.Legible))
  | comment rest => decidableLegible rest
  | element name attributes children rest =>
      have := decidableLegible children
      have := decidableLegible rest
      inferInstanceAs (Decidable ((Policy.IsPlainName name.name ∧
        (∀ item ∈ attributes, item.Legible) ∧ (attributes.map Attribute.name).Nodup) ∧
        children.Legible ∧ rest.Legible))

/-- A fragment that is found again where what is printed of it is read. -/
structure Settled (fragment : Fragment) : Prop where
  legible : fragment.joined.Legible
  nested : fragment.joined.nested [.page "html"] = true
  /-- All line ends are line feeds. -/
  lined : '\r' ∉ fragment.print false
  /-- It does not begin with a byte order mark. -/
  unmarked : (fragment.print false).head? ≠ some '\ufeff'

instance (fragment : Fragment) : Decidable fragment.Settled :=
  decidable_of_iff (fragment.joined.Legible ∧ fragment.joined.nested [.page "html"] = true ∧
    '\r' ∉ fragment.print false ∧ (fragment.print false).head? ≠ some '\ufeff')
    ⟨fun parts => ⟨parts.1, parts.2.1, parts.2.2.1, parts.2.2.2⟩,
      fun settled => ⟨settled.legible, settled.nested, settled.lined, settled.unmarked⟩⟩

theorem Settled.ofText_print {fragment : Fragment} (settled : fragment.Settled) :
    ofText (fragment.print false) = fragment.joined := by
  rw [← print_joined]
  exact Fragment.ofText_print settled.nested settled.legible fragment.joined_joined
    (print_joined fragment false ▸ settled.lined) (print_joined fragment false ▸ settled.unmarked)

end Html.Fragment

namespace Policy

/-! ## What cleaning leaves alone -/

/-- Whether cleaning a fragment that stands right inside an element leaves all of it as it is. -/
def Keeps (policy : Policy) (parent : ElementName) : Fragment → Prop
  | .nil => True
  | .text _ rest => policy.Keeps parent rest
  | .comment _ => False
  | .element name attributes children rest =>
      (policy.removes parent name = false ∧ policy.allowedTags.contains name.name = true ∧
        policy.cleanAttributes name.name attributes = attributes) ∧
        policy.Keeps name children ∧ policy.Keeps parent rest

variable {policy : Policy} {parent : ElementName} {fragment : Fragment}

theorem Keeps.clean_eq (kept : policy.Keeps parent fragment) :
    policy.clean parent fragment = fragment := by
  induction fragment generalizing parent with
  | nil => rfl
  | text content rest ih => exact congrArg (Fragment.text content) (ih kept)
  | comment rest ih => exact absurd kept id
  | element name attributes children rest ihChildren ihRest =>
      rcases kept with ⟨⟨stays, allowed, same⟩, keptChildren, keptRest⟩
      rw [clean, stays, allowed, same, ihChildren keptChildren, ihRest keptRest]
      rfl

theorem Keeps.append {later : Fragment} (first : policy.Keeps parent fragment)
    (second : policy.Keeps parent later) : policy.Keeps parent (fragment ++ later) := by
  induction fragment with
  | nil => exact second
  | text content rest ih => exact ih first
  | comment rest ih => exact absurd first id
  | element name attributes children rest _ ih => exact ⟨first.1, first.2.1, ih first.2.2⟩

theorem Keeps.joinText (kept : policy.Keeps parent fragment) (content : String) :
    policy.Keeps parent (Fragment.joinText content fragment) := by
  unfold Fragment.joinText
  split
  · exact kept
  · split <;> exact kept

theorem Keeps.joined (kept : policy.Keeps parent fragment) :
    policy.Keeps parent fragment.joined := by
  induction fragment generalizing parent with
  | nil => trivial
  | text content rest ih => exact (ih kept).joinText content
  | comment rest ih => exact absurd kept id
  | element name attributes children rest ihChildren ihRest =>
      exact ⟨kept.1, ihChildren kept.2.1, ihRest kept.2.2⟩

theorem Lawful.keepsAttribute_relation (lawful : policy.Lawful) (element : String) :
    policy.keepsAttribute element linkRelation = false := by
  rw [keepsAttribute, allowsAttribute, genericAttributes, lawful.not_allows_relation,
    lawful.not_allows_relation]
  rfl

/-- The relation of a link is not allowed, so it is taken away again before it is set anew. -/
theorem Lawful.cleanAttributes_cleanAttributes (lawful : policy.Lawful) (element : String)
    (attributes : List Attribute) :
    policy.cleanAttributes element (policy.cleanAttributes element attributes) =
      policy.cleanAttributes element attributes := by
  have relation := lawful.keepsAttribute_relation element
  unfold cleanAttributes
  rw [List.filter_append, List.filter_filter]
  split <;> simp [relation]

theorem Lawful.keeps_clean (lawful : policy.Lawful) (parent : ElementName) (fragment : Fragment) :
    policy.Keeps parent (policy.clean parent fragment) := by
  induction fragment generalizing parent with
  | nil => trivial
  | text content rest ih => exact ih parent
  | comment rest ih => exact ih parent
  | element name attributes children rest ihChildren ihRest =>
      unfold clean
      split
      · exact ihRest parent
      · rename_i stays
        split
        · rename_i allowed
          exact ⟨⟨by simpa using stays, allowed, lawful.cleanAttributes_cleanAttributes _ _⟩,
            ihChildren name, ihRest parent⟩
        · exact (ihChildren parent).append (ihRest parent)

/-! ## Sanitising twice -/

theorem Lawful.cleanText_sanitize (lawful : policy.Lawful) (enabled : policy.enabled = true)
    {html : String} (settled : (policy.cleanText html).Settled) :
    policy.cleanText (policy.sanitize html) = (policy.cleanText html).joined := by
  rw [lawful.sanitize_eq_print enabled, cleanText, String.toList_ofList, settled.ofText_print]
  exact (lawful.keeps_clean frame (Fragment.ofText html.toList)).joined.clean_eq

theorem sanitize_disabled (disabled : policy.enabled = false) (html : String) :
    policy.sanitize html = html := by
  rw [sanitize, trySanitize, disabled]
  rfl

theorem Lawful.sanitize_sanitize (lawful : policy.Lawful) {html : String}
    (settled : (policy.cleanText html).Settled) :
    policy.sanitize (policy.sanitize html) = policy.sanitize html := by
  cases enabled : policy.enabled with
  | false => rw [sanitize_disabled enabled, sanitize_disabled enabled]
  | true =>
      rw [lawful.sanitize_eq_print enabled (policy.sanitize html),
        lawful.cleanText_sanitize enabled settled, Fragment.print_joined,
        ← lawful.sanitize_eq_print enabled]

/-- A carriage return written as a reference is printed as it stands and read as a line end. -/
theorem Lawful.sanitize_carriageReturn (lawful : policy.Lawful) (enabled : policy.enabled = true) :
    policy.sanitize "&#13;" = "\r" ∧ policy.sanitize "\r" = "\n" := by
  have written : Fragment.ofText "&#13;".toList = .text "\r" .nil := by decide +kernel
  have read : Fragment.ofText "\r".toList = .text "\n" .nil := by decide +kernel
  rw [lawful.sanitize_eq_print enabled, lawful.sanitize_eq_print enabled, cleanText, cleanText,
    written, read]
  exact ⟨rfl, rfl⟩

/-- Of the policies that can be had, only those that clean nothing leave all that they have
sanitised as it is. Whatever the policy, sanitising again changes nothing where what is left of the
markup is settled. -/
theorem sanitize_sanitize_of_reachable (reachable : policy.Reachable) :
    ((∀ html, policy.sanitize (policy.sanitize html) = policy.sanitize html) ↔
        policy.enabled = false) ∧
      ∀ html, (policy.cleanText html).Settled →
        policy.sanitize (policy.sanitize html) = policy.sanitize html := by
  refine ⟨⟨fun stable => ?_, fun disabled html => ?_⟩,
    fun html => reachable.lawful.sanitize_sanitize⟩
  · refine Bool.eq_false_iff.mpr fun enabled => ?_
    rcases reachable.lawful.sanitize_carriageReturn enabled with ⟨first, second⟩
    have same := stable "&#13;"
    rw [first, second] at same
    exact absurd same (by decide)
  · rw [sanitize_disabled disabled, sanitize_disabled disabled]

/-- A page with a table, lists, links and formatting in each other. -/
def nestedPage : String :=
  "<h1 id=top onclick=x()>a</h1><p>b <a href='/c' rel=me>d<b>e</b></a><!--f--><ul><li>g" ++
    "<ol><li><p>h</ol></ul><script>i</script><table><tr><td><font>j</font></table>"

theorem recommended_sanitize_nestedPage :
    recommended.Reachable ∧ (recommended.cleanText nestedPage).Settled ∧
      recommended.sanitize (recommended.sanitize nestedPage) = recommended.sanitize nestedPage ∧
      ¬ ∀ html, recommended.sanitize (recommended.sanitize html) = recommended.sanitize html := by
  have settled : (recommended.cleanText nestedPage).Settled := by decide +kernel
  rcases @sanitize_sanitize_of_reachable _ .recommended with ⟨stable, kept⟩
  exact ⟨.recommended, settled, kept _ settled, fun always => Bool.noConfusion (stable.mp always)⟩

/-- A paragraph in a button in a paragraph. -/
def buttonPage : String :=
  "<p>a<button><p>b</p></button></p>"

/-- Once the button around it has given way, the start tag of the inner paragraph closes the outer
one. -/
theorem recommended_splits_nested_paragraph :
    recommended.Reachable ∧ recommended.sanitize buttonPage = "<p>a<p>b</p></p>" ∧
      recommended.sanitize (recommended.sanitize buttonPage) = "<p>a</p><p>b</p><p></p>" ∧
      recommended.sanitize (recommended.sanitize buttonPage) ≠ recommended.sanitize buttonPage := by
  have once : recommended.sanitize buttonPage = "<p>a<p>b</p></p>" := by decide +kernel
  have twice : recommended.sanitize "<p>a<p>b</p></p>" = "<p>a</p><p>b</p><p></p>" := by
    decide +kernel
  rw [once, twice]
  exact ⟨.recommended, rfl, rfl, by decide⟩

end Policy

end PageRender
