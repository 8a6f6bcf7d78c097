import MediaFilter.Proofs.Bindings.Frame
import MediaFilter.Proofs.Expression.Normalization

/-!
What the expression of bound widgets holds under the keys of a filter: the clauses of the filter's
widget, if it has one, except that the tag percentage moves to the tags.
-/

namespace MediaFilter

theorem Expression.get?_build_of_mem {pairs : List (Definition × FilterValue)}
    (distinct : Distinct pairs) {pair : Definition × FilterValue} (listed : pair ∈ pairs)
    (notTag : pair.1.name ≠ .tag) (notPercentage : pair.1.name ≠ .tagPercentage) {key : String}
    (owned : key ∈ pair.1.name.keys) :
    (build pairs).get? key = Clauses.get? key (contribution pair) := by
  rw [get?_build distinct, if_neg, if_neg, gathered?_eq_of_mem distinct listed owned]
  · rintro rfl
    exact notTag (FilterName.eq_of_mem_keys owned List.mem_cons_self)
  · rintro (rfl | rfl)
    · exact notPercentage (FilterName.eq_of_mem_keys owned (by simp [FilterName.keys]))
    · exact notPercentage (FilterName.eq_of_mem_keys owned (by simp [FilterName.keys]))

namespace Bindings

def pairs (bindings : Bindings) : List (Definition × FilterValue) :=
  bindings.widgets.map fun widget => (widget.definition, widget.value)

theorem build_eq (bindings : Bindings) : bindings.build = .build bindings.pairs := rfl

theorem names_pairs (bindings : Bindings) :
    bindings.pairs.map (fun pair => pair.1.name) = bindings.names := by
  simp only [pairs, names, List.map_map]
  rfl

theorem Sound.distinct_pairs {bindings : Bindings} (sound : bindings.Sound) :
    Expression.Distinct bindings.pairs := by
  rw [Expression.Distinct, names_pairs]
  exact sound.distinct

section

variable {bindings : Bindings} (sound : bindings.Sound)

include sound

theorem Sound.get?_build_of_mem {widget : Widget} (isBound : widget ∈ bindings.widgets)
    (notTag : widget.name ≠ .tag) (notPercentage : widget.name ≠ .tagPercentage) {key : String}
    (owned : key ∈ widget.name.keys) :
    bindings.build.get? key =
      Clauses.get? key (Expression.contribution (widget.definition, widget.value)) := by
  have member : (widget.definition, widget.value) ∈ bindings.pairs :=
    List.mem_map.2 ⟨widget, isBound, rfl⟩
  exact Expression.get?_build_of_mem sound.distinct_pairs member notTag notPercentage owned

theorem Sound.get?_build_of_absent {name : FilterName} (absent : name ∉ bindings.names)
    {key : String} (owned : key ∈ name.keys) : bindings.build.get? key = none := by
  have nothing : Expression.gathered? bindings.pairs key = none :=
    Expression.gathered?_eq_none (by rwa [names_pairs]) owned
  rw [build_eq, Expression.get?_build sound.distinct_pairs, nothing]
  split
  · rfl
  · split <;> rfl

end

end Bindings

end MediaFilter
