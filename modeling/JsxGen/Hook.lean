/-! Functions of the library that the written source calls. -/

namespace JsxGen

inductive Hook where
  | navigateAction | createAction | updateAction | deleteAction | signOutAction | stateMutation
  | dataStoreBinding | auth | breakpointValue | overrideProps | variantOverrides
  deriving DecidableEq

def Hook.name : Hook → String
  | .navigateAction => "useNavigateAction"
  | .createAction => "useDataStoreCreateAction"
  | .updateAction => "useDataStoreUpdateAction"
  | .deleteAction => "useDataStoreDeleteAction"
  | .signOutAction => "useAuthSignOutAction"
  | .stateMutation => "useStateMutationAction"
  | .dataStoreBinding => "useDataStoreBinding"
  | .auth => "useAuth"
  | .breakpointValue => "useBreakpointValue"
  | .overrideProps => "getOverrideProps"
  | .variantOverrides => "getOverridesFromVariants"

end JsxGen
