import HomeEntities.Text.Alphanumeric
import HomeEntities.Text.Lowercase

/-!
# Slugs

The slug of a text is made in one pass over its lower-case form. Letters and digits are kept; for
anything else there is an underscore, but none at the beginning, none after another and none at the
end. A text of which nothing is kept has the slug `unnamed`.

* `pushSlug`: one step of the pass.
* `slugify`: the slug of a text.
-/

namespace HomeEntities.Text

/-- The lower-case form of a text, character by character. -/
def lowercaseAll (cs : List Char) : List Char := cs.flatMap lowercase

/-- Add what there is for a character to a slug, whose last character comes first. -/
def pushSlug (slug : List Char) (c : Char) : List Char :=
  if isAlphanumeric c then c :: slug
  else if !slug.isEmpty && slug.head? != some '_' then '_' :: slug
  else slug

/-- The slug of a text. -/
def slugify (text : String) : String :=
  let slug := (lowercaseAll text.toList).foldl pushSlug []
  let slug := slug.dropWhile (· == '_')
  if slug.isEmpty then "unnamed" else String.ofList slug.reverse

end HomeEntities.Text
