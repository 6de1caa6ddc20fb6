/-!
Node kinds of the PHP grammar that the rules look at. Nodes of other kinds carry their grammar name
all the same.
-/

namespace PhpAudit

namespace Kind

def namespaceDefinition : String := "namespace_definition"
def useDeclaration : String := "namespace_use_declaration"
def useClause : String := "namespace_use_clause"
def useGroup : String := "namespace_use_group"
def useGroupClause : String := "namespace_use_group_clause"
def aliasingClause : String := "namespace_aliasing_clause"
def namespaceName : String := "namespace_name"
def qualifiedName : String := "qualified_name"
def name : String := "name"
def classDeclaration : String := "class_declaration"
def methodDeclaration : String := "method_declaration"
def formalParameters : String := "formal_parameters"
def visibilityModifier : String := "visibility_modifier"
def staticModifier : String := "static_modifier"
def objectCreation : String := "object_creation_expression"
def scopedCall : String := "scoped_call_expression"
def memberCall : String := "member_call_expression"
def nullsafeMemberCall : String := "nullsafe_member_call_expression"
def functionCall : String := "function_call_expression"
def memberAccess : String := "member_access_expression"
def variableName : String := "variable_name"
def foreachStatement : String := "foreach_statement"
def constDeclaration : String := "const_declaration"
def integer : String := "integer"
def comment : String := "comment"

end Kind

end PhpAudit
