/-
This file lists the causes for which the container refuses a request, and the wording of each.
-/

namespace BeanContainer

/-- A typed read of an attribute expects one of these kinds. -/
inductive AttributeKind where
  | string
  | bool
  | number
  | stringArray
  | nestedArray
  | proxyMode
deriving DecidableEq

def AttributeKind.label : AttributeKind → String
  | .string => "String"
  | .bool => "bool"
  | .number => "i64"
  | .stringArray => "String[]"
  | .nestedArray => "Annotation[]"
  | .proxyMode => "ScopedProxyMode"

/-- These are the ways in which a bean name or an alias can be unusable. -/
inductive NameFault where
  | blankName
  | blankNameOrAlias
  | aliasCycle (aliasName name : String)
  | other (reason : String)
deriving DecidableEq

def NameFault.message : NameFault → String
  | .blankName => "Bean 名称不能为空"
  | .blankNameOrAlias => "名称和别名都不能为空"
  | .aliasCycle aliasName name => s!"别名 '{aliasName}' -> '{name}' 会形成循环引用"
  | .other reason => reason

inductive DefinitionError where
  | namingConflict (existing candidate : String)
  | missingBeanClassName
  | duplicateBeanName (name existing : String)
  | noSuchBeanDefinition (name : String)
  | aliasConflict (aliasName name existing : String)
  | invalidBeanName (fault : NameFault)
  | missingAttribute (name : String)
  | attributeTypeMismatch (name : String) (expected : AttributeKind)
  | invalidRole (code : Int64)
  | problemReported (message location : String)
deriving DecidableEq

namespace DefinitionError

def message : DefinitionError → String
  | .namingConflict existing candidate =>
      s!"构造型注解给出的组件名称不一致: '{existing}' 与 '{candidate}'"
  | .missingBeanClassName => "Bean 定义未设置类名, 无法生成默认名称"
  | .duplicateBeanName name existing => s!"无法注册 Bean 定义 '{name}': 名称已绑定到 {existing}"
  | .noSuchBeanDefinition name => s!"未找到名称为 '{name}' 的 Bean 定义"
  | .aliasConflict aliasName name existing =>
      s!"无法为 '{name}' 注册别名 '{aliasName}': 该别名已指向 '{existing}'"
  | .invalidBeanName fault => s!"无效的 Bean 名称: {fault.message}"
  | .missingAttribute name => s!"注解属性缺失: {name}"
  | .attributeTypeMismatch name expected =>
      s!"注解属性类型不匹配: {name}, 期望 {expected.label}"
  | .invalidRole code => s!"无效的角色代码: {code.toInt}"
  | .problemReported message location => s!"配置问题: {message}, 位置: {location}"

def isNamingConflict : DefinitionError → Bool
  | .namingConflict _ _ => true
  | _ => false

end DefinitionError

/-- These are the faults of a settings source or of a metadata document. -/
inductive ConfigError where
  | unreadableFile
  | malformedToml
  | malformedJson
  | keyNotFound (key : String)
deriving DecidableEq

/-- Starting a container ends in one of these faults. -/
inductive InfrastructureError where
  | config (cause : ConfigError)
  | definition (cause : DefinitionError)
  | bootstrapFailed (reason : String)
  | problemsDetected (count : Nat) (summary : String)
deriving DecidableEq

/-- The texts of a file that cannot be read or parsed belong to the reader, so they are not
given here. -/
def ConfigError.message? : ConfigError → Option String
  | .keyNotFound key => some s!"配置键不存在: {key}"
  | _ => none

def InfrastructureError.message? : InfrastructureError → Option String
  | .config cause => cause.message?.map fun text => s!"配置错误: {text}"
  | .definition cause => some s!"Bean 定义错误: {cause.message}"
  | .bootstrapFailed reason => some s!"基础设施启动失败: {reason}"
  | .problemsDetected count summary => some s!"检测到 {count} 个配置问题: {summary}"

end BeanContainer
