import MockData.Proofs.Exchange
import MockData.Proofs.Updates

/-!
Changes of a customer that come from a text. The text of a customer, read as a change, turns any
customer into that one; and a change that was kept as a text does what it did before.
-/
namespace MockData.CustomerPatch

open Json

def ofCustomer (c : Customer) : CustomerPatch :=
  ⟨c.id, c.fullName, c.citizenId, c.address, c.phone, c.email, c.birthDate⟩

@[simp] theorem ofCustomer_apply (c b : Customer) : (ofCustomer c).apply b = c := rfl

theorem toJson_ofCustomer (c : Customer) : (ofCustomer c).toJson = c.toJson := rfl

variable {style : Style}

theorem ofText?_toJson (plain : style.Plain) (p : CustomerPatch) :
    jsonRecord.ofText? (p.toJson.render style) = .ok p :=
  ofText?_render (p.takes_toJson plain)

theorem ofText?_customer (plain : style.Plain) (c : Customer) :
    jsonRecord.ofText? (c.toJson.render style) = .ok (ofCustomer c) := by
  rw [← toJson_ofCustomer, ofText?_toJson plain]

/-- The text of a customer is that of a change which makes any customer this one. And whatever
fields a change sets, it sets these and no others when it comes from its own text. -/
theorem applies_from_text (plain : style.Plain) :
    (∀ c : Customer, ∃ p, jsonRecord.ofText? (c.toJson.render style) = .ok p ∧
      ∀ b, p.apply b = c) ∧
    ∀ p : CustomerPatch, ∃ q, jsonRecord.ofText? (p.toJson.render style) = .ok q ∧
      ∀ b, q.apply b = p.apply b ∧ p.Turns b (q.apply b) := by
  constructor
  · intro c
    exact ⟨ofCustomer c, ofText?_customer plain c, fun b => ofCustomer_apply c b⟩
  · intro p
    exact ⟨p, ofText?_toJson plain p, fun b => ⟨rfl, p.turns_apply b⟩⟩

theorem applies_from_text_pretty :
    let named : CustomerPatch := { empty with fullName := some "\"Bình\"\n", phone := some "" }
    Style.pretty.Plain ∧
      (∃ p, jsonRecord.ofText? ((sampleCustomer "A").toJson.render .pretty) = .ok p ∧
        p.apply (sampleCustomer "B") = sampleCustomer "A") ∧
      ∃ q, jsonRecord.ofText? (named.toJson.render .pretty) = .ok q ∧
        q.apply (sampleCustomer "A") =
          { sampleCustomer "A" with fullName := "\"Bình\"\n", phone := "" } := by
  intro named
  obtain ⟨whole, part⟩ := applies_from_text Style.plain_pretty
  obtain ⟨p, read, makes⟩ := whole (sampleCustomer "A")
  obtain ⟨q, read', sets⟩ := part named
  exact ⟨Style.plain_pretty, ⟨p, read, makes _⟩, q, read', (sets _).1⟩

end MockData.CustomerPatch
