import Colloquy.Text.Class

/-!
# Letter case

Upper, lower, title and folded case of whole texts. One letter may become several, and a sigma at
the end of a word has a lower case of its own.
-/

namespace Colloquy.Text

def upperMap : LetterMap := .ofText
  "61-7a~20 b5-b5+2e7 e0-f6~20 f8-fe~20 ff-ff+79 101-12f/~1 131-131~e8 133-137/~1 13a-148/~1
   14b-177/~1 17a-17e/~1 17f-17f~12c 180-180+c3 183-185/~1 188-188~1 18c-18c~1 192-192~1 195-195+61
   199-199~1 19a-19a+a3 19e-19e+82 1a1-1a5/~1 1a8-1a8~1 1ad-1ad~1 1b0-1b0~1 1b4-1b6/~1 1b9-1b9~1
   1bd-1bd~1 1bf-1bf+38 1c5-1c5~1 1c6-1c6~2 1c8-1c8~1 1c9-1c9~2 1cb-1cb~1 1cc-1cc~2 1ce-1dc/~1
   1dd-1dd~4f 1df-1ef/~1 1f2-1f2~1 1f3-1f3~2 1f5-1f5~1 1f9-21f/~1 223-233/~1 23c-23c~1 23f-240+2a3f
   242-242~1 247-24f/~1 250-250+2a1f 251-251+2a1c 252-252+2a1e 253-253~d2 254-254~ce 256-257~cd
   259-259~ca 25b-25b~cb 25c-25c+a54f 260-260~cd 261-261+a54b 263-263~cf 265-265+a528 266-266+a544
   268-268~d1 269-269~d3 26a-26a+a544 26b-26b+29f7 26c-26c+a541 26f-26f~d3 271-271+29fd 272-272~d5
   275-275~d6 27d-27d+29e7 280-280~da 282-282+a543 283-283~da 287-287+a52a 288-288~da 289-289~45
   28a-28b~d9 28c-28c~47 292-292~db 29d-29d+a515 29e-29e+a512 345-345+54 371-373/~1 377-377~1
   37b-37d+82 3ac-3ac~26 3ad-3af~25 3b1-3c1~20 3c2-3c2~1f 3c3-3cb~20 3cc-3cc~40 3cd-3ce~3f
   3d0-3d0~3e 3d1-3d1~39 3d5-3d5~2f 3d6-3d6~36 3d7-3d7~8 3d9-3ef/~1 3f0-3f0~56 3f1-3f1~50 3f2-3f2+7
   3f3-3f3~74 3f5-3f5~60 3f8-3f8~1 3fb-3fb~1 430-44f~20 450-45f~50 461-481/~1 48b-4bf/~1 4c2-4ce/~1
   4cf-4cf~f 4d1-52f/~1 561-586~30 10d0-10fa+bc0 10fd-10ff+bc0 13f8-13fd~8 1c80-1c80~186e
   1c81-1c81~186d 1c82-1c82~1864 1c83-1c84~1862 1c85-1c85~1863 1c86-1c86~185c 1c87-1c87~1825
   1c88-1c88+89c2 1d79-1d79+8a04 1d7d-1d7d+ee6 1d8e-1d8e+8a38 1e01-1e95/~1 1e9b-1e9b~3b
   1ea1-1eff/~1 1f00-1f07+8 1f10-1f15+8 1f20-1f27+8 1f30-1f37+8 1f40-1f45+8 1f51-1f57/+8
   1f60-1f67+8 1f70-1f71+4a 1f72-1f75+56 1f76-1f77+64 1f78-1f79+80 1f7a-1f7b+70 1f7c-1f7d+7e
   1fb0-1fb1+8 1fbe-1fbe~1c25 1fd0-1fd1+8 1fe0-1fe1+8 1fe5-1fe5+7 214e-214e~1c 2170-217f~10
   2184-2184~1 24d0-24e9~1a 2c30-2c5f~30 2c61-2c61~1 2c65-2c65~2a2b 2c66-2c66~2a28 2c68-2c6c/~1
   2c73-2c73~1 2c76-2c76~1 2c81-2ce3/~1 2cec-2cee/~1 2cf3-2cf3~1 2d00-2d25~1c60 2d27-2d27~1c60
   2d2d-2d2d~1c60 a641-a66d/~1 a681-a69b/~1 a723-a72f/~1 a733-a76f/~1 a77a-a77c/~1 a77f-a787/~1
   a78c-a78c~1 a791-a793/~1 a794-a794+30 a797-a7a9/~1 a7b5-a7c3/~1 a7c8-a7ca/~1 a7d1-a7d1~1
   a7d7-a7d9/~1 a7f6-a7f6~1 ab53-ab53~3a0 ab70-abbf~97d0 ff41-ff5a~20 10428-1044f~28 104d8-104fb~28
   10597-105bb/~27 10598-105a0/~27 105a4-105b0/~27 105b4-105b8/~27 105bc-105bc~27 10cc0-10cf2~40
   118c0-118df~20 16e60-16e7f~20 1e922-1e943~22"
  "df=53,53 149=2bc,4e 1f0=4a,30c 390=399,308,301 3b0=3a5,308,301 587=535,552 1e96=48,331
   1e97=54,308 1e98=57,30a 1e99=59,30a 1e9a=41,2be 1f50=3a5,313 1f52=3a5,313,300 1f54=3a5,313,301
   1f56=3a5,313,342 1f80=1f08,399 1f81=1f09,399 1f82=1f0a,399 1f83=1f0b,399 1f84=1f0c,399
   1f85=1f0d,399 1f86=1f0e,399 1f87=1f0f,399 1f88=1f08,399 1f89=1f09,399 1f8a=1f0a,399
   1f8b=1f0b,399 1f8c=1f0c,399 1f8d=1f0d,399 1f8e=1f0e,399 1f8f=1f0f,399 1f90=1f28,399
   1f91=1f29,399 1f92=1f2a,399 1f93=1f2b,399 1f94=1f2c,399 1f95=1f2d,399 1f96=1f2e,399
   1f97=1f2f,399 1f98=1f28,399 1f99=1f29,399 1f9a=1f2a,399 1f9b=1f2b,399 1f9c=1f2c,399
   1f9d=1f2d,399 1f9e=1f2e,399 1f9f=1f2f,399 1fa0=1f68,399 1fa1=1f69,399 1fa2=1f6a,399
   1fa3=1f6b,399 1fa4=1f6c,399 1fa5=1f6d,399 1fa6=1f6e,399 1fa7=1f6f,399 1fa8=1f68,399
   1fa9=1f69,399 1faa=1f6a,399 1fab=1f6b,399 1fac=1f6c,399 1fad=1f6d,399 1fae=1f6e,399
   1faf=1f6f,399 1fb2=1fba,399 1fb3=391,399 1fb4=386,399 1fb6=391,342 1fb7=391,342,399 1fbc=391,399
   1fc2=1fca,399 1fc3=397,399 1fc4=389,399 1fc6=397,342 1fc7=397,342,399 1fcc=397,399
   1fd2=399,308,300 1fd3=399,308,301 1fd6=399,342 1fd7=399,308,342 1fe2=3a5,308,300
   1fe3=3a5,308,301 1fe4=3a1,313 1fe6=3a5,342 1fe7=3a5,308,342 1ff2=1ffa,399 1ff3=3a9,399
   1ff4=38f,399 1ff6=3a9,342 1ff7=3a9,342,399 1ffc=3a9,399 fb00=46,46 fb01=46,49 fb02=46,4c
   fb03=46,46,49 fb04=46,46,4c fb05=53,54 fb06=53,54 fb13=544,546 fb14=544,535 fb15=544,53b
   fb16=54e,546 fb17=544,53d"

def lowerMap : LetterMap := .ofText
  "41-5a+20 c0-d6+20 d8-de+20 100-12e/+1 132-136/+1 139-147/+1 14a-176/+1 178-178~79 179-17d/+1
   181-181+d2 182-184/+1 186-186+ce 187-187+1 189-18a+cd 18b-18b+1 18e-18e+4f 18f-18f+ca 190-190+cb
   191-191+1 193-193+cd 194-194+cf 196-196+d3 197-197+d1 198-198+1 19c-19c+d3 19d-19d+d5 19f-19f+d6
   1a0-1a4/+1 1a6-1a6+da 1a7-1a7+1 1a9-1a9+da 1ac-1ac+1 1ae-1ae+da 1af-1af+1 1b1-1b2+d9 1b3-1b5/+1
   1b7-1b7+db 1b8-1b8+1 1bc-1bc+1 1c4-1c4+2 1c5-1c5+1 1c7-1c7+2 1c8-1c8+1 1ca-1ca+2 1cb-1db/+1
   1de-1ee/+1 1f1-1f1+2 1f2-1f4/+1 1f6-1f6~61 1f7-1f7~38 1f8-21e/+1 220-220~82 222-232/+1
   23a-23a+2a2b 23b-23b+1 23d-23d~a3 23e-23e+2a28 241-241+1 243-243~c3 244-244+45 245-245+47
   246-24e/+1 370-372/+1 376-376+1 37f-37f+74 386-386+26 388-38a+25 38c-38c+40 38e-38f+3f
   391-3a1+20 3a3-3ab+20 3cf-3cf+8 3d8-3ee/+1 3f4-3f4~3c 3f7-3f7+1 3f9-3f9~7 3fa-3fa+1 3fd-3ff~82
   400-40f+50 410-42f+20 460-480/+1 48a-4be/+1 4c0-4c0+f 4c1-4cd/+1 4d0-52e/+1 531-556+30
   10a0-10c5+1c60 10c7-10c7+1c60 10cd-10cd+1c60 13a0-13ef+97d0 13f0-13f5+8 1c90-1cba~bc0
   1cbd-1cbf~bc0 1e00-1e94/+1 1e9e-1e9e~1dbf 1ea0-1efe/+1 1f08-1f0f~8 1f18-1f1d~8 1f28-1f2f~8
   1f38-1f3f~8 1f48-1f4d~8 1f59-1f5f/~8 1f68-1f6f~8 1f88-1f8f~8 1f98-1f9f~8 1fa8-1faf~8 1fb8-1fb9~8
   1fba-1fbb~4a 1fbc-1fbc~9 1fc8-1fcb~56 1fcc-1fcc~9 1fd8-1fd9~8 1fda-1fdb~64 1fe8-1fe9~8
   1fea-1feb~70 1fec-1fec~7 1ff8-1ff9~80 1ffa-1ffb~7e 1ffc-1ffc~9 2126-2126~1d5d 212a-212a~20bf
   212b-212b~2046 2132-2132+1c 2160-216f+10 2183-2183+1 24b6-24cf+1a 2c00-2c2f+30 2c60-2c60+1
   2c62-2c62~29f7 2c63-2c63~ee6 2c64-2c64~29e7 2c67-2c6b/+1 2c6d-2c6d~2a1c 2c6e-2c6e~29fd
   2c6f-2c6f~2a1f 2c70-2c70~2a1e 2c72-2c72+1 2c75-2c75+1 2c7e-2c7f~2a3f 2c80-2ce2/+1 2ceb-2ced/+1
   2cf2-2cf2+1 a640-a66c/+1 a680-a69a/+1 a722-a72e/+1 a732-a76e/+1 a779-a77b/+1 a77d-a77d~8a04
   a77e-a786/+1 a78b-a78b+1 a78d-a78d~a528 a790-a792/+1 a796-a7a8/+1 a7aa-a7aa~a544 a7ab-a7ab~a54f
   a7ac-a7ac~a54b a7ad-a7ad~a541 a7ae-a7ae~a544 a7b0-a7b0~a512 a7b1-a7b1~a52a a7b2-a7b2~a515
   a7b3-a7b3+3a0 a7b4-a7c2/+1 a7c4-a7c4~30 a7c5-a7c5~a543 a7c6-a7c6~8a38 a7c7-a7c9/+1 a7d0-a7d0+1
   a7d6-a7d8/+1 a7f5-a7f5+1 ff21-ff3a+20 10400-10427+28 104b0-104d3+28 10570-10594/+27
   10571-10579/+27 1057d-10589/+27 1058d-10591/+27 10595-10595+27 10c80-10cb2+40 118a0-118bf+20
   16e40-16e5f+20 1e900-1e921+22"
  "130=69,307"

def titleMap : LetterMap := .ofText
  "61-7a~20 b5-b5+2e7 e0-f6~20 f8-fe~20 ff-ff+79 101-12f/~1 131-131~e8 133-137/~1 13a-148/~1
   14b-177/~1 17a-17e/~1 17f-17f~12c 180-180+c3 183-185/~1 188-188~1 18c-18c~1 192-192~1 195-195+61
   199-199~1 19a-19a+a3 19e-19e+82 1a1-1a5/~1 1a8-1a8~1 1ad-1ad~1 1b0-1b0~1 1b4-1b6/~1 1b9-1b9~1
   1bd-1bd~1 1bf-1bf+38 1c4-1c4+1 1c6-1c6~1 1c7-1c7+1 1c9-1c9~1 1ca-1ca+1 1cc-1dc/~1 1dd-1dd~4f
   1df-1ef/~1 1f1-1f1+1 1f3-1f5/~1 1f9-21f/~1 223-233/~1 23c-23c~1 23f-240+2a3f 242-242~1
   247-24f/~1 250-250+2a1f 251-251+2a1c 252-252+2a1e 253-253~d2 254-254~ce 256-257~cd 259-259~ca
   25b-25b~cb 25c-25c+a54f 260-260~cd 261-261+a54b 263-263~cf 265-265+a528 266-266+a544 268-268~d1
   269-269~d3 26a-26a+a544 26b-26b+29f7 26c-26c+a541 26f-26f~d3 271-271+29fd 272-272~d5 275-275~d6
   27d-27d+29e7 280-280~da 282-282+a543 283-283~da 287-287+a52a 288-288~da 289-289~45 28a-28b~d9
   28c-28c~47 292-292~db 29d-29d+a515 29e-29e+a512 345-345+54 371-373/~1 377-377~1 37b-37d+82
   3ac-3ac~26 3ad-3af~25 3b1-3c1~20 3c2-3c2~1f 3c3-3cb~20 3cc-3cc~40 3cd-3ce~3f 3d0-3d0~3e
   3d1-3d1~39 3d5-3d5~2f 3d6-3d6~36 3d7-3d7~8 3d9-3ef/~1 3f0-3f0~56 3f1-3f1~50 3f2-3f2+7 3f3-3f3~74
   3f5-3f5~60 3f8-3f8~1 3fb-3fb~1 430-44f~20 450-45f~50 461-481/~1 48b-4bf/~1 4c2-4ce/~1 4cf-4cf~f
   4d1-52f/~1 561-586~30 13f8-13fd~8 1c80-1c80~186e 1c81-1c81~186d 1c82-1c82~1864 1c83-1c84~1862
   1c85-1c85~1863 1c86-1c86~185c 1c87-1c87~1825 1c88-1c88+89c2 1d79-1d79+8a04 1d7d-1d7d+ee6
   1d8e-1d8e+8a38 1e01-1e95/~1 1e9b-1e9b~3b 1ea1-1eff/~1 1f00-1f07+8 1f10-1f15+8 1f20-1f27+8
   1f30-1f37+8 1f40-1f45+8 1f51-1f57/+8 1f60-1f67+8 1f70-1f71+4a 1f72-1f75+56 1f76-1f77+64
   1f78-1f79+80 1f7a-1f7b+70 1f7c-1f7d+7e 1f80-1f87+8 1f90-1f97+8 1fa0-1fa7+8 1fb0-1fb1+8
   1fb3-1fb3+9 1fbe-1fbe~1c25 1fc3-1fc3+9 1fd0-1fd1+8 1fe0-1fe1+8 1fe5-1fe5+7 1ff3-1ff3+9
   214e-214e~1c 2170-217f~10 2184-2184~1 24d0-24e9~1a 2c30-2c5f~30 2c61-2c61~1 2c65-2c65~2a2b
   2c66-2c66~2a28 2c68-2c6c/~1 2c73-2c73~1 2c76-2c76~1 2c81-2ce3/~1 2cec-2cee/~1 2cf3-2cf3~1
   2d00-2d25~1c60 2d27-2d27~1c60 2d2d-2d2d~1c60 a641-a66d/~1 a681-a69b/~1 a723-a72f/~1 a733-a76f/~1
   a77a-a77c/~1 a77f-a787/~1 a78c-a78c~1 a791-a793/~1 a794-a794+30 a797-a7a9/~1 a7b5-a7c3/~1
   a7c8-a7ca/~1 a7d1-a7d1~1 a7d7-a7d9/~1 a7f6-a7f6~1 ab53-ab53~3a0 ab70-abbf~97d0 ff41-ff5a~20
   10428-1044f~28 104d8-104fb~28 10597-105bb/~27 10598-105a0/~27 105a4-105b0/~27 105b4-105b8/~27
   105bc-105bc~27 10cc0-10cf2~40 118c0-118df~20 16e60-16e7f~20 1e922-1e943~22"
  "df=53,73 149=2bc,4e 1f0=4a,30c 390=399,308,301 3b0=3a5,308,301 587=535,582 1e96=48,331
   1e97=54,308 1e98=57,30a 1e99=59,30a 1e9a=41,2be 1f50=3a5,313 1f52=3a5,313,300 1f54=3a5,313,301
   1f56=3a5,313,342 1fb2=1fba,345 1fb4=386,345 1fb6=391,342 1fb7=391,342,345 1fc2=1fca,345
   1fc4=389,345 1fc6=397,342 1fc7=397,342,345 1fd2=399,308,300 1fd3=399,308,301 1fd6=399,342
   1fd7=399,308,342 1fe2=3a5,308,300 1fe3=3a5,308,301 1fe4=3a1,313 1fe6=3a5,342 1fe7=3a5,308,342
   1ff2=1ffa,345 1ff4=38f,345 1ff6=3a9,342 1ff7=3a9,342,345 fb00=46,66 fb01=46,69 fb02=46,6c
   fb03=46,66,69 fb04=46,66,6c fb05=53,74 fb06=53,74 fb13=544,576 fb14=544,565 fb15=544,56b
   fb16=54e,576 fb17=544,56d"

/-- Folded case of single letters, for comparisons that ignore case. -/
def foldMap : LetterMap := .ofText
  "41-5a+20 b5-b5+307 c0-d6+20 d8-de+20 100-12e/+1 132-136/+1 139-147/+1 14a-176/+1 178-178~79
   179-17d/+1 17f-17f~10c 181-181+d2 182-184/+1 186-186+ce 187-187+1 189-18a+cd 18b-18b+1
   18e-18e+4f 18f-18f+ca 190-190+cb 191-191+1 193-193+cd 194-194+cf 196-196+d3 197-197+d1 198-198+1
   19c-19c+d3 19d-19d+d5 19f-19f+d6 1a0-1a4/+1 1a6-1a6+da 1a7-1a7+1 1a9-1a9+da 1ac-1ac+1 1ae-1ae+da
   1af-1af+1 1b1-1b2+d9 1b3-1b5/+1 1b7-1b7+db 1b8-1b8+1 1bc-1bc+1 1c4-1c4+2 1c5-1c5+1 1c7-1c7+2
   1c8-1c8+1 1ca-1ca+2 1cb-1db/+1 1de-1ee/+1 1f1-1f1+2 1f2-1f4/+1 1f6-1f6~61 1f7-1f7~38 1f8-21e/+1
   220-220~82 222-232/+1 23a-23a+2a2b 23b-23b+1 23d-23d~a3 23e-23e+2a28 241-241+1 243-243~c3
   244-244+45 245-245+47 246-24e/+1 345-345+74 370-372/+1 376-376+1 37f-37f+74 386-386+26
   388-38a+25 38c-38c+40 38e-38f+3f 391-3a1+20 3a3-3ab+20 3c2-3c2+1 3cf-3cf+8 3d0-3d0~1e 3d1-3d1~19
   3d5-3d5~f 3d6-3d6~16 3d8-3ee/+1 3f0-3f0~36 3f1-3f1~30 3f4-3f4~3c 3f5-3f5~40 3f7-3f7+1 3f9-3f9~7
   3fa-3fa+1 3fd-3ff~82 400-40f+50 410-42f+20 460-480/+1 48a-4be/+1 4c0-4c0+f 4c1-4cd/+1 4d0-52e/+1
   531-556+30 10a0-10c5+1c60 10c7-10c7+1c60 10cd-10cd+1c60 13f8-13fd~8 1c80-1c80~184e
   1c81-1c81~184d 1c82-1c82~1844 1c83-1c84~1842 1c85-1c85~1843 1c86-1c86~183c 1c87-1c87~1824
   1c88-1c88+89c3 1c90-1cba~bc0 1cbd-1cbf~bc0 1e00-1e94/+1 1e9b-1e9b~3a 1ea0-1efe/+1 1f08-1f0f~8
   1f18-1f1d~8 1f28-1f2f~8 1f38-1f3f~8 1f48-1f4d~8 1f59-1f5f/~8 1f68-1f6f~8 1fb8-1fb9~8
   1fba-1fbb~4a 1fbe-1fbe~1c05 1fc8-1fcb~56 1fd8-1fd9~8 1fda-1fdb~64 1fe8-1fe9~8 1fea-1feb~70
   1fec-1fec~7 1ff8-1ff9~80 1ffa-1ffb~7e 2126-2126~1d5d 212a-212a~20bf 212b-212b~2046 2132-2132+1c
   2160-216f+10 2183-2183+1 24b6-24cf+1a 2c00-2c2f+30 2c60-2c60+1 2c62-2c62~29f7 2c63-2c63~ee6
   2c64-2c64~29e7 2c67-2c6b/+1 2c6d-2c6d~2a1c 2c6e-2c6e~29fd 2c6f-2c6f~2a1f 2c70-2c70~2a1e
   2c72-2c72+1 2c75-2c75+1 2c7e-2c7f~2a3f 2c80-2ce2/+1 2ceb-2ced/+1 2cf2-2cf2+1 a640-a66c/+1
   a680-a69a/+1 a722-a72e/+1 a732-a76e/+1 a779-a77b/+1 a77d-a77d~8a04 a77e-a786/+1 a78b-a78b+1
   a78d-a78d~a528 a790-a792/+1 a796-a7a8/+1 a7aa-a7aa~a544 a7ab-a7ab~a54f a7ac-a7ac~a54b
   a7ad-a7ad~a541 a7ae-a7ae~a544 a7b0-a7b0~a512 a7b1-a7b1~a52a a7b2-a7b2~a515 a7b3-a7b3+3a0
   a7b4-a7c2/+1 a7c4-a7c4~30 a7c5-a7c5~a543 a7c6-a7c6~8a38 a7c7-a7c9/+1 a7d0-a7d0+1 a7d6-a7d8/+1
   a7f5-a7f5+1 ab70-abbf~97d0 ff21-ff3a+20 10400-10427+28 104b0-104d3+28 10570-10594/+27
   10571-10579/+27 1057d-10589/+27 1058d-10591/+27 10595-10595+27 10c80-10cb2+40 118a0-118bf+20
   16e40-16e5f+20 1e900-1e921+22"
  "df=73,73 130=69,307 149=2bc,6e 1f0=6a,30c 390=3b9,308,301 3b0=3c5,308,301 587=565,582
   1e96=68,331 1e97=74,308 1e98=77,30a 1e99=79,30a 1e9a=61,2be 1e9e=73,73 1f50=3c5,313
   1f52=3c5,313,300 1f54=3c5,313,301 1f56=3c5,313,342 1f80=1f00,3b9 1f81=1f01,3b9 1f82=1f02,3b9
   1f83=1f03,3b9 1f84=1f04,3b9 1f85=1f05,3b9 1f86=1f06,3b9 1f87=1f07,3b9 1f88=1f00,3b9
   1f89=1f01,3b9 1f8a=1f02,3b9 1f8b=1f03,3b9 1f8c=1f04,3b9 1f8d=1f05,3b9 1f8e=1f06,3b9
   1f8f=1f07,3b9 1f90=1f20,3b9 1f91=1f21,3b9 1f92=1f22,3b9 1f93=1f23,3b9 1f94=1f24,3b9
   1f95=1f25,3b9 1f96=1f26,3b9 1f97=1f27,3b9 1f98=1f20,3b9 1f99=1f21,3b9 1f9a=1f22,3b9
   1f9b=1f23,3b9 1f9c=1f24,3b9 1f9d=1f25,3b9 1f9e=1f26,3b9 1f9f=1f27,3b9 1fa0=1f60,3b9
   1fa1=1f61,3b9 1fa2=1f62,3b9 1fa3=1f63,3b9 1fa4=1f64,3b9 1fa5=1f65,3b9 1fa6=1f66,3b9
   1fa7=1f67,3b9 1fa8=1f60,3b9 1fa9=1f61,3b9 1faa=1f62,3b9 1fab=1f63,3b9 1fac=1f64,3b9
   1fad=1f65,3b9 1fae=1f66,3b9 1faf=1f67,3b9 1fb2=1f70,3b9 1fb3=3b1,3b9 1fb4=3ac,3b9 1fb6=3b1,342
   1fb7=3b1,342,3b9 1fbc=3b1,3b9 1fc2=1f74,3b9 1fc3=3b7,3b9 1fc4=3ae,3b9 1fc6=3b7,342
   1fc7=3b7,342,3b9 1fcc=3b7,3b9 1fd2=3b9,308,300 1fd3=3b9,308,301 1fd6=3b9,342 1fd7=3b9,308,342
   1fe2=3c5,308,300 1fe3=3c5,308,301 1fe4=3c1,313 1fe6=3c5,342 1fe7=3c5,308,342 1ff2=1f7c,3b9
   1ff3=3c9,3b9 1ff4=3ce,3b9 1ff6=3c9,342 1ff7=3c9,342,3b9 1ffc=3c9,3b9 fb00=66,66 fb01=66,69
   fb02=66,6c fb03=66,66,69 fb04=66,66,6c fb05=73,74 fb06=73,74 fb13=574,576 fb14=574,565
   fb15=574,56b fb16=57e,576 fb17=574,56d"

/-- Image of one character under a letter map, with a direct answer for characters of ASCII. -/
def mapLetter (map : LetterMap) (ascii : Char → Char) (c : Char) : List Char :=
  if c.toNat < 128 then [ascii c] else map.apply c

/-- Whether the closest character of `cs` that is not ignorable has a case. -/
def nextIsCased (cs : List Char) : Bool :=
  match cs.dropWhile isCaseIgnorable with
  | [] => false
  | c :: _ => isCased c

/-- Lower case of the characters `cs`, those before them given in reverse. -/
def lowerAfter (before : List Char) : List Char → List Char
  | [] => []
  | c :: cs =>
    let image :=
      if c == 'Σ' then [if nextIsCased before && !nextIsCased cs then 'ς' else 'σ']
      else mapLetter lowerMap Char.toLower c
    image ++ lowerAfter (c :: before) cs

def toLower (s : String) : String :=
  String.ofList (lowerAfter [] s.toList)

def toUpper (s : String) : String :=
  String.ofList (s.toList.flatMap (mapLetter upperMap Char.toUpper))

def toFolded (s : String) : String :=
  String.ofList (s.toList.flatMap (mapLetter foldMap Char.toLower))

/-- Title case from the characters `cs` on: a letter after a letter is lowered, any other one is
raised. -/
def titleAfter (before : List Char) : List Char → List Char
  | [] => []
  | c :: cs =>
    let inWord := (before.head?.map isCased).getD false
    let image :=
      if inWord then
        if c == 'Σ' then [if nextIsCased before && !nextIsCased cs then 'ς' else 'σ']
        else mapLetter lowerMap Char.toLower c
      else mapLetter titleMap Char.toUpper c
    image ++ titleAfter (c :: before) cs

/-- Title case of a text: every word starts with a capital and goes on in lower case. -/
def toTitle (s : String) : String :=
  String.ofList (titleAfter [] s.toList)

/-- The text with its first letter in title case and all others in lower case. -/
def capitalize (s : String) : String :=
  match s.toList with
  | [] => ""
  | c :: cs => String.ofList (mapLetter titleMap Char.toUpper c ++ lowerAfter [c] cs)

/-- The text with upper and lower case exchanged. -/
def swapCase (s : String) : String :=
  let rec go (before : List Char) : List Char → List Char
    | [] => []
    | c :: cs =>
      let image :=
        if isUpper c then
          if c == 'Σ' then [if nextIsCased before && !nextIsCased cs then 'ς' else 'σ']
          else mapLetter lowerMap Char.toLower c
        else if isLower c then mapLetter upperMap Char.toUpper c
        else [c]
      image ++ go (c :: before) cs
  String.ofList (go [] s.toList)

end Colloquy.Text
